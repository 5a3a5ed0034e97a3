import Mathlib.Algebra.Order.Group.Nat
import Mathlib.Data.Multiset.AddSub
import Msm8917Common.LocHeap
import Msm8917Common.Runs

/-! `LocHeap` as a removable priority queue: an abstract multiset says what each
call may answer, and the tree answers so after any sequence of calls. The ranking
is any total preorder; equal elements are those with one address. -/
namespace Msm8917Common
namespace LocHeapNode
open Runs

variable {α : Type*} (outRanks : α → α → Bool)

/-- `LocHeapNode::checkNodes`, true of a null pointer as in `checkTree`. -/
def checkNodes : LocHeapNode α → Bool
  | null => true
  | node mSize mLeft mRight mData =>
    if mLeft.peek.any (outRanks · mData) || !checkNodes mLeft then false
    else if mRight.peek.any (outRanks · mData) || !checkNodes mRight then false
    else mSize - mLeft.size - mRight.size == 1

/-- `LocHeapNode::pop` with its swaps: the data of the top, here `carried`, is
swapped down to the leaf that goes. What that leaf carries comes first. -/
def popNode (carried : α) : LocHeapNode α → α × LocHeapNode α
  | null => (carried, null)
  | node mSize mLeft mRight _ =>
    match mLeft.peek, mRight.peek with
    | none, none => (carried, null)
    | none, some data =>
      ((popNode carried mRight).1, node (mSize - 1) mLeft (popNode carried mRight).2 data)
    | some data, none =>
      ((popNode carried mLeft).1, node (mSize - 1) (popNode carried mLeft).2 mRight data)
    | some left, some right =>
      if outRanks left right then
        ((popNode carried mLeft).1, node (mSize - 1) (popNode carried mLeft).2 mRight left)
      else ((popNode carried mRight).1, node (mSize - 1) mLeft (popNode carried mRight).2 right)

/-- A call of `LocHeap`. -/
inductive HeapCall (α : Type*) where
  | push (data : α)
  | pop
  | remove (rankable : α)

/-- What the call returns, `none` for a null pointer, and the tree it leaves. -/
def call [DecidableEq α] (mTree : LocHeapNode α) : HeapCall α → Option α × LocHeapNode α
  | .push data => (none, push outRanks data mTree)
  | .pop =>
    match mTree.peek with
    | none => (none, mTree)
    | some top => (some (popNode outRanks top mTree).1, (popNode outRanks top mTree).2)
  | .remove rankable =>
    match remove outRanks rankable mTree with
    | none => (none, mTree)
    | some mTree => (some rankable, mTree)

/-! What the tree is for -/

/-- `outRanks` comes of a total preorder: of two elements one ranks no lower than
the other, and to rank no lower is transitive. -/
structure Ranking (outRanks : α → α → Bool) : Prop where
  total : ∀ first second, ¬ outRanks second first ∨ ¬ outRanks first second
  transitive : ∀ first second third, ¬ outRanks second first → ¬ outRanks third second →
    ¬ outRanks third first

/-- What a call on the abstract multiset may return, and the multiset it leaves. -/
inductive Answers [DecidableEq α] :
    Multiset α → HeapCall α → Option α → Multiset α → Prop where
  | pushed (held : Multiset α) (data : α) : Answers held (.push data) none (data ::ₘ held)
  | empty : Answers 0 .pop none 0
  | popped (held : Multiset α) (top : α) (member : top ∈ held)
      (maximal : ∀ other ∈ held, ¬ outRanks other top) :
      Answers held .pop (some top) (held.erase top)
  | removed (held : Multiset α) (rankable : α) (member : rankable ∈ held) :
      Answers held (.remove rankable) (some rankable) (held.erase rankable)
  | absent (held : Multiset α) (rankable : α) (missing : rankable ∉ held) :
      Answers held (.remove rankable) none held

/-- The abstract multiset of a tree. -/
def elements (tree : LocHeapNode α) : Multiset α := tree.toList

/-- Each node's `mSize` is the number of nodes of its subtree. -/
def Sized : LocHeapNode α → Prop
  | null => True
  | node mSize mLeft mRight mData =>
    mSize = (node mSize mLeft mRight mData).toList.length ∧ mLeft.Sized ∧ mRight.Sized

/-- The top of the tree, if it has one, does not outrank the data. -/
def Below (tree : LocHeapNode α) (data : α) : Prop :=
  ∀ top, tree.peek = some top → ¬ outRanks top data

/-- No node is outranked by a child of it. -/
def Sorted : LocHeapNode α → Prop
  | null => True
  | node _ mLeft mRight mData =>
    mLeft.Below outRanks mData ∧ mRight.Below outRanks mData ∧ mLeft.Sorted ∧ mRight.Sorted

variable {outRanks} {data top : α} {tree after mLeft mRight : LocHeapNode α} {mSize : Int}

theorem popNode_eq (carried : α) (tree : LocHeapNode α) :
    popNode outRanks carried tree = (carried, pop outRanks tree) := by
  induction tree with
  | null => rfl
  | node mSize mLeft mRight mData ihLeft ihRight =>
    cases left : mLeft.peek with
    | none => cases right : mRight.peek <;> simp only [popNode, pop, left, right, ihRight]
    | some first =>
      cases right : mRight.peek with
      | none => simp only [popNode, pop, left, right, ihLeft]
      | some second =>
        simp only [popNode, pop, left, right, ihLeft, ihRight]
        split <;> rfl

/-! `mSize` -/

theorem size_of_sized (sized : tree.Sized) : tree.size = tree.toList.length := by
  cases tree with
  | null => rfl
  | node mSize mLeft mRight mData => exact sized.1

theorem sized_push (data : α) (sized : tree.Sized) : (push outRanks data tree).Sized := by
  induction tree generalizing data with
  | null => exact ⟨rfl, trivial, trivial⟩
  | node mSize mLeft mRight mData ihLeft ihRight =>
    obtain ⟨counted, left, right⟩ := sized
    have longer : mSize + 1 = (push outRanks data (node mSize mLeft mRight mData)).toList.length := by
      have more := (push_perm data _ : (push outRanks data
        (node mSize mLeft mRight mData)).toList.Perm _).length_eq
      rw [List.length_cons] at more
      omega
    obtain ⟨kept, dropped, _, pushed | pushed⟩ := push_cases outRanks data mSize mLeft mRight mData
    · rw [pushed] at longer ⊢
      exact ⟨longer, ihLeft dropped left, right⟩
    · rw [pushed] at longer ⊢
      exact ⟨longer, left, ihRight dropped right⟩

theorem sized_pop (sized : tree.Sized) : (pop outRanks tree).Sized := by
  induction tree with
  | null => exact sized
  | node mSize mLeft mRight mData ihLeft ihRight =>
    obtain ⟨counted, left, right⟩ := sized
    have shorter : mSize - 1 = (pop outRanks (node mSize mLeft mRight mData)).toList.length := by
      have fewer := (pop_perm rfl : (mData :: (pop outRanks
        (node mSize mLeft mRight mData)).toList).Perm _).length_eq
      rw [List.length_cons] at fewer
      omega
    rcases pop_cases outRanks mSize mLeft mRight mData with
      ⟨_, _, popped⟩ | ⟨first, _, _, popped⟩ | ⟨second, _, _, popped⟩
    · rw [popped]
      trivial
    · rw [popped] at shorter ⊢
      exact ⟨shorter, ihLeft left, right⟩
    · rw [popped] at shorter ⊢
      exact ⟨shorter, left, ihRight right⟩

/-! The order from the top down -/

theorem below_of_null : Below outRanks (null : LocHeapNode α) data := by
  rintro _ ⟨⟩

theorem mem_of_mem_pop {element : α} (member : element ∈ (pop outRanks tree).toList) :
    element ∈ tree.toList := by
  cases tree with
  | null => exact absurd member List.not_mem_nil
  | node mSize mLeft mRight mData =>
    exact (pop_perm rfl).mem_iff.mp (List.mem_cons_of_mem _ member)

theorem sized_remove [DecidableEq α] (sized : tree.Sized)
    (removed : remove outRanks data tree = some after) : after.Sized := by
  induction tree generalizing after with
  | null => cases removed
  | node mSize mLeft mRight mData ihLeft ihRight =>
    have fewer := (remove_perm removed).length_eq
    rw [List.length_cons] at fewer
    unfold remove at removed
    split at removed
    · cases removed
      exact sized_pop sized
    · obtain ⟨counted, left, right⟩ := sized
      split at removed
      · cases removed
      · split at removed
        · next less found =>
          cases removed
          exact ⟨by omega, ihLeft left found, right⟩
        · obtain ⟨less, found, rfl⟩ := Option.map_eq_some_iff.mp removed
          exact ⟨by omega, left, ihRight right found⟩

section Agree

/-- Two rankings that rank the elements of a list alike. -/
def Agree (one other : α → α → Bool) (elements : List α) : Prop :=
  ∀ first ∈ elements, ∀ second ∈ elements, one first second = other first second

variable {other : α → α → Bool} {elements : List α}

theorem Agree.subset {fewer : List α} (agree : Agree outRanks other elements)
    (among : ∀ element ∈ fewer, element ∈ elements) : Agree outRanks other fewer :=
  fun first member second alike => agree first (among first member) second (among second alike)

theorem push_congr (agree : Agree outRanks other (data :: tree.toList)) :
    push outRanks data tree = push other data tree := by
  induction tree generalizing data with
  | null => rfl
  | node mSize mLeft mRight mData ihLeft ihRight =>
    have same : outRanks data mData = other data mData :=
      agree data List.mem_cons_self mData (by simp [toList])
    have left : Agree outRanks other
        ((if outRanks data mData then mData else data) :: mLeft.toList) :=
      agree.subset fun element member => by
        split at member <;> simp only [toList, List.mem_cons, List.mem_append] at member ⊢ <;> tauto
    have right : Agree outRanks other
        ((if outRanks data mData then mData else data) :: mRight.toList) :=
      agree.subset fun element member => by
        split at member <;> simp only [toList, List.mem_cons, List.mem_append] at member ⊢ <;> tauto
    rw [same] at left right
    simp only [push, same, ihLeft left, ihRight right]

theorem pop_congr (agree : Agree outRanks other tree.toList) :
    pop outRanks tree = pop other tree := by
  induction tree with
  | null => rfl
  | node mSize mLeft mRight mData ihLeft ihRight =>
    have left : Agree outRanks other mLeft.toList :=
      agree.subset fun element member => by simp [toList, member]
    have right : Agree outRanks other mRight.toList :=
      agree.subset fun element member => by simp [toList, member]
    simp only [pop, ihLeft left, ihRight right]
    split
    · rfl
    · rfl
    · rfl
    · rename_i first second onLeft onRight
      rw [agree first (by simp [toList, mem_of_peek onLeft]) second
        (by simp [toList, mem_of_peek onRight])]

theorem remove_congr [DecidableEq α] (agree : Agree outRanks other (data :: tree.toList)) :
    remove outRanks data tree = remove other data tree := by
  induction tree with
  | null => rfl
  | node mSize mLeft mRight mData ihLeft ihRight =>
    have left : Agree outRanks other (data :: mLeft.toList) :=
      agree.subset fun element member => by
        simp only [toList, List.mem_cons, List.mem_append] at member ⊢
        tauto
    have right : Agree outRanks other (data :: mRight.toList) :=
      agree.subset fun element member => by
        simp only [toList, List.mem_cons, List.mem_append] at member ⊢
        tauto
    have popped : pop outRanks (node mSize mLeft mRight mData) =
        pop other (node mSize mLeft mRight mData) :=
      pop_congr (agree.subset fun element member => List.mem_cons_of_mem _ member)
    simp only [remove, ihLeft left, ihRight right, popped,
      agree data List.mem_cons_self mData (by simp [toList])]

end Agree

section Ranked
variable (ranking : Ranking outRanks)
include ranking

/-- An element is not outranked by what it outranks, nor by itself. -/
theorem Ranking.not_flipped {first second : α} (higher : outRanks first second) :
    ¬ outRanks second first :=
  (ranking.total first second).resolve_right (not_not_intro higher)

theorem Ranking.not_self (data : α) : ¬ outRanks data data :=
  (ranking.total data data).elim id id

/-- What the top does not outrank, no element of the tree outranks. -/
theorem not_outRanks_of_mem (sorted : tree.Sorted outRanks) (below : tree.Below outRanks data)
    {element : α} (member : element ∈ tree.toList) : ¬ outRanks element data := by
  induction tree generalizing data with
  | null => exact absurd member List.not_mem_nil
  | node mSize mLeft mRight mData ihLeft ihRight =>
    obtain ⟨belowLeft, belowRight, left, right⟩ := sorted
    have top := below mData rfl
    rcases List.mem_cons.mp member with rfl | deeper
    · exact top
    · rcases List.mem_append.mp deeper with inLeft | inRight
      · exact ranking.transitive data mData element top (ihLeft left belowLeft inLeft)
      · exact ranking.transitive data mData element top (ihRight right belowRight inRight)

theorem below_of_subset (sorted : tree.Sorted outRanks) (below : tree.Below outRanks data)
    (fewer : ∀ element ∈ after.toList, element ∈ tree.toList) : after.Below outRanks data :=
  fun top found => not_outRanks_of_mem ranking sorted below (fewer top (mem_of_peek found))

theorem top_is_maximal (sorted : tree.Sorted outRanks) (found : tree.peek = some top)
    {element : α} (member : element ∈ tree.toList) : ¬ outRanks element top := by
  refine not_outRanks_of_mem ranking sorted ?_ member
  intro other same
  cases found.symm.trans same
  exact ranking.not_self top

theorem below_push {dropped : α} (sorted : tree.Sorted outRanks)
    (below : tree.Below outRanks data) (lower : ¬ outRanks dropped data) :
    (push outRanks dropped tree).Below outRanks data := by
  intro top found
  rcases List.mem_cons.mp ((push_perm dropped tree).mem_iff.mp (mem_of_peek found)) with
    rfl | member
  · exact lower
  · exact not_outRanks_of_mem ranking sorted below member

theorem sorted_push (data : α) (sorted : tree.Sorted outRanks) :
    (push outRanks data tree).Sorted outRanks := by
  induction tree generalizing data with
  | null => exact ⟨below_of_null, below_of_null, trivial, trivial⟩
  | node mSize mLeft mRight mData ihLeft ihRight =>
    obtain ⟨belowLeft, belowRight, left, right⟩ := sorted
    obtain ⟨kept, dropped, ranked, pushed⟩ := push_cases outRanks data mSize mLeft mRight mData
    -- What stays ranks no lower than the old top and than what goes on.
    have order : ¬ outRanks mData kept ∧ ¬ outRanks dropped kept := by
      rcases ranked with ⟨higher, rfl, rfl⟩ | ⟨lower, rfl, rfl⟩
      · exact ⟨ranking.not_flipped higher, ranking.not_flipped higher⟩
      · exact ⟨ranking.not_self _, lower⟩
    have under : ∀ {subtree : LocHeapNode α}, subtree.Below outRanks mData →
        subtree.Below outRanks kept :=
      fun below top found => ranking.transitive kept mData top order.1 (below top found)
    rcases pushed with pushed | pushed
    · rw [pushed]
      exact ⟨below_push ranking left (under belowLeft) order.2, under belowRight,
        ihLeft dropped left, right⟩
    · rw [pushed]
      exact ⟨under belowLeft, below_push ranking right (under belowRight) order.2, left,
        ihRight dropped right⟩

theorem sorted_pop (sorted : tree.Sorted outRanks) : (pop outRanks tree).Sorted outRanks := by
  induction tree with
  | null => exact sorted
  | node mSize mLeft mRight mData ihLeft ihRight =>
    obtain ⟨_, _, left, right⟩ := sorted
    rcases pop_cases outRanks mSize mLeft mRight mData with
      ⟨_, _, popped⟩ | ⟨first, found, higher, popped⟩ | ⟨second, found, higher, popped⟩
    · rw [popped]
      trivial
    · rw [popped]
      refine ⟨?_, fun top other => ranking.not_flipped (higher top other), ihLeft left, right⟩
      intro top other
      exact top_is_maximal ranking left found (mem_of_mem_pop (mem_of_peek other))
    · rw [popped]
      refine ⟨fun top other => higher top other, ?_, left, ihRight right⟩
      intro top other
      exact top_is_maximal ranking right found (mem_of_mem_pop (mem_of_peek other))

section Remove
variable [DecidableEq α]

theorem sorted_remove (sorted : tree.Sorted outRanks)
    (removed : remove outRanks data tree = some after) : after.Sorted outRanks := by
  induction tree generalizing after with
  | null => cases removed
  | node mSize mLeft mRight mData ihLeft ihRight =>
    unfold remove at removed
    split at removed
    · cases removed
      exact sorted_pop ranking sorted
    · obtain ⟨belowLeft, belowRight, left, right⟩ := sorted
      split at removed
      · cases removed
      · split at removed
        · next less found =>
          cases removed
          refine ⟨below_of_subset ranking left belowLeft ?_, belowRight, ihLeft left found, right⟩
          exact fun element member => (remove_perm found).mem_iff.mp (List.mem_cons_of_mem _ member)
        · obtain ⟨less, found, rfl⟩ := Option.map_eq_some_iff.mp removed
          refine ⟨belowLeft, below_of_subset ranking right belowRight ?_, left,
            ihRight right found⟩
          exact fun element member => (remove_perm found).mem_iff.mp (List.mem_cons_of_mem _ member)

/-- The search never leaves out a subtree that holds the data: no node on the way
down to it ranks lower. -/
theorem remove_finds (sorted : tree.Sorted outRanks) (member : data ∈ tree.toList) :
    ∃ after, remove outRanks data tree = some after := by
  induction tree with
  | null => exact absurd member List.not_mem_nil
  | node mSize mLeft mRight mData ihLeft ihRight =>
    have notHigher : ¬ outRanks data mData := top_is_maximal ranking sorted rfl member
    obtain ⟨_, _, left, right⟩ := sorted
    rw [remove]
    by_cases same : data = mData
    · exact ⟨_, if_pos same⟩
    · rw [if_neg same, if_neg notHigher]
      cases found : remove outRanks data mLeft with
      | some less => exact ⟨_, rfl⟩
      | none =>
        rcases List.mem_append.mp ((List.mem_cons.mp member).resolve_left same) with
          inLeft | inRight
        · obtain ⟨less, kept⟩ := ihLeft left inLeft
          cases found.symm.trans kept
        · obtain ⟨less, kept⟩ := ihRight right inRight
          exact ⟨_, Option.map_eq_some_iff.mpr ⟨less, kept, rfl⟩⟩

end Remove
end Ranked

theorem not_any_iff_below : tree.peek.any (outRanks · data) = false ↔ tree.Below outRanks data := by
  cases tree <;> simp [peek, Below]

/-- The source's own test is the two properties together. -/
theorem checkNodes_iff : checkNodes outRanks tree = true ↔ tree.Sized ∧ tree.Sorted outRanks := by
  induction tree with
  | null => exact iff_of_true rfl ⟨trivial, trivial⟩
  | node mSize mLeft mRight mData ihLeft ihRight =>
    have counted : mLeft.Sized → mRight.Sized → (mSize - mLeft.size - mRight.size = 1 ↔
        mSize = (node mSize mLeft mRight mData).toList.length) := by
      intro left right
      rw [size_of_sized left, size_of_sized right, toList, List.length_cons, List.length_append]
      omega
    simp only [checkNodes, Sized, Sorted, ← @not_any_iff_below α outRanks]
    split
    · next bad => grind
    · split
      · next bad => grind
      · next good good' => grind

/-! The calls -/

variable (outRanks) in
/-- A tree that a run from the empty heap may visit. -/
structure Valid (tree : LocHeapNode α) : Prop where
  sized : tree.Sized
  sorted : tree.Sorted outRanks

theorem valid_null : Valid outRanks (null : LocHeapNode α) := ⟨trivial, trivial⟩

section Calls
variable [DecidableEq α] (outRanks)

/-- The tree that a call leaves. -/
def step (mTree : LocHeapNode α) (made : HeapCall α) : LocHeapNode α :=
  (call outRanks mTree made).2

variable {outRanks}

theorem valid_step (ranking : Ranking outRanks) (tree : LocHeapNode α) (made : HeapCall α)
    (valid : Valid outRanks tree) : Valid outRanks (step outRanks tree made) := by
  obtain ⟨sized, sorted⟩ := valid
  cases made with
  | push data => exact ⟨sized_push data sized, sorted_push ranking data sorted⟩
  | pop =>
    simp only [step, call, popNode_eq]
    split
    · exact ⟨sized, sorted⟩
    · exact ⟨sized_pop sized, sorted_pop ranking sorted⟩
  | remove rankable =>
    simp only [step, call]
    split
    · exact ⟨sized, sorted⟩
    · next found => exact ⟨sized_remove sized found, sorted_remove ranking sorted found⟩

/-- Each call answers as the abstract multiset does. -/
theorem call_answers (ranking : Ranking outRanks) (valid : Valid outRanks tree)
    (made : HeapCall α) :
    Answers outRanks tree.elements made (call outRanks tree made).1
      (step outRanks tree made).elements := by
  have erased : ∀ {data after}, (data :: after).Perm tree.toList →
      (after : Multiset α) = tree.elements.erase data := by
    intro data after same
    rw [elements, ← Multiset.coe_eq_coe.mpr same, ← Multiset.cons_coe, Multiset.erase_cons_head]
  cases made with
  | push data =>
    have pushed : (step outRanks tree (.push data)).elements = data ::ₘ tree.elements :=
      Multiset.coe_eq_coe.mpr (push_perm data tree)
    rw [pushed]
    exact .pushed _ _
  | pop =>
    simp only [step, call, popNode_eq]
    cases found : tree.peek with
    | none =>
      rw [peek_eq_none.mp found]
      exact .empty
    | some top =>
      have left : (pop outRanks tree).elements = tree.elements.erase top := erased (pop_perm found)
      simp only [left]
      exact .popped _ _ (mem_of_peek found)
        fun other member => top_is_maximal ranking valid.sorted found member
  | remove rankable =>
    simp only [step, call]
    cases found : remove outRanks rankable tree with
    | none =>
      refine .absent _ _ fun member => ?_
      obtain ⟨after, removed⟩ := remove_finds ranking valid.sorted member
      cases found.symm.trans removed
    | some after =>
      have left : after.elements = tree.elements.erase rankable := erased (remove_perm found)
      simp only [left]
      exact .removed _ _ ((remove_perm found).mem_iff.mp List.mem_cons_self)

theorem call_pop_eq (tree : LocHeapNode α) :
    call outRanks tree .pop = (tree.peek, pop outRanks tree) := by
  simp only [call, popNode_eq]
  cases found : tree.peek with
  | none => rw [peek_eq_none.mp found, pop]
  | some top => rfl

theorem call_pop_perm {rest : LocHeapNode α}
    (popped : call outRanks tree .pop = (some data, rest)) :
    (data :: rest.toList).Perm tree.toList := by
  rw [call_pop_eq, Prod.mk.injEq] at popped
  rw [← popped.2]
  exact pop_perm popped.1

/-- What comes of popping until `pop` returns a null pointer, as the loop at the
end of the debug `main` does. -/
def popAll (outRanks : α → α → Bool) (mTree : LocHeapNode α) : List α :=
  match _ : call outRanks mTree .pop with
  | (none, _) => []
  | (some data, rest) => data :: popAll outRanks rest
termination_by mTree.toList.length
decreasing_by
  rename_i popped
  rw [← (call_pop_perm popped).length_eq]
  exact Nat.lt_succ_self _

theorem popAll_of_some {rest : LocHeapNode α}
    (popped : call outRanks tree .pop = (some data, rest)) :
    popAll outRanks tree = data :: popAll outRanks rest := by
  rw [popAll]
  split
  · next none_left => cases popped.symm.trans none_left
  · next again =>
    cases popped.symm.trans again
    rfl

theorem popAll_perm (tree : LocHeapNode α) : (popAll outRanks tree).Perm tree.toList := by
  induction tree using popAll.induct outRanks with
  | case1 tree rest popped =>
    rw [call_pop_eq, Prod.mk.injEq] at popped
    rw [popAll, call_pop_eq, popped.1, peek_eq_none.mp popped.1]
    exact List.Perm.refl _
  | case2 tree data rest popped ih =>
    rw [popAll_of_some popped]
    exact (ih.cons data).trans (call_pop_perm popped)

theorem popAll_sorted (ranking : Ranking outRanks) (tree : LocHeapNode α)
    (sorted : tree.Sorted outRanks) :
    (popAll outRanks tree).Pairwise fun first later => ¬ outRanks later first := by
  induction tree using popAll.induct outRanks with
  | case1 tree rest popped =>
    rw [call_pop_eq, Prod.mk.injEq] at popped
    rw [popAll, call_pop_eq, popped.1]
    exact List.Pairwise.nil
  | case2 tree data rest popped ih =>
    rw [popAll_of_some popped]
    have both : call outRanks tree .pop = (tree.peek, pop outRanks tree) := call_pop_eq tree
    rw [popped, Prod.mk.injEq] at both
    refine List.Pairwise.cons (fun later member => ?_) (ih (both.2 ▸ sorted_pop ranking sorted))
    refine top_is_maximal ranking sorted both.1.symm ((call_pop_perm popped).mem_iff.mp ?_)
    exact List.mem_cons_of_mem _ ((popAll_perm rest).mem_iff.mp member)

/-- `LocHeap` is a removable priority queue over any sequence of calls: each tree
it goes through passes `checkNodes`, each call answers as the multiset of its
elements does, and popping what is left yields it in an order that never rises. -/
theorem the_heap_is_a_removable_priority_queue (ranking : Ranking outRanks)
    (calls : List (HeapCall α)) :
    (∀ tree ∈ states (step outRanks) null calls,
      tree.Sized ∧ tree.Sorted outRanks ∧ checkNodes outRanks tree = true ∧
        (popAll outRanks tree : Multiset α) = tree.elements ∧
        (popAll outRanks tree).Pairwise fun first later => ¬ outRanks later first) ∧
      ∀ taken ∈ steps (step outRanks) null calls,
        Answers outRanks taken.1.elements taken.2 (call outRanks taken.1 taken.2).1
          (step outRanks taken.1 taken.2).elements := by
  constructor
  · intro tree visited
    obtain ⟨sized, sorted⟩ := invariant_states (valid_step ranking) calls valid_null tree visited
    exact ⟨sized, sorted, checkNodes_iff.mpr ⟨sized, sorted⟩,
      Multiset.coe_eq_coe.mpr (popAll_perm tree), popAll_sorted ranking tree sorted⟩
  · exact events_of_invariant (valid_step ranking)
      (fun tree made valid => call_answers ranking valid made) calls valid_null

/-- With an address and a rank to each element: two that rank alike, one of
which is removed by its address. -/
theorem two_alike_keep_apart :
    let outRanks : Nat × Nat → Nat × Nat → Bool := fun data other => other.2 < data.2
    let calls := [.push (1, 5), .push (2, 5), .push (3, 7), .pop, .remove (2, 5)]
    Ranking outRanks ∧ calls.foldl (step outRanks) null = node 1 null null (1, 5) ∧
      (∀ tree ∈ states (step outRanks) null calls,
        tree.Sized ∧ tree.Sorted outRanks ∧ checkNodes outRanks tree = true ∧
          (popAll outRanks tree : Multiset (Nat × Nat)) = tree.elements ∧
          (popAll outRanks tree).Pairwise fun first later => ¬ outRanks later first) ∧
      ∀ taken ∈ steps (step outRanks) null calls,
        Answers outRanks taken.1.elements taken.2 (call outRanks taken.1 taken.2).1
          (step outRanks taken.1 taken.2).elements := by
  have ranking : Ranking fun data other : Nat × Nat => decide (other.2 < data.2) := by
    constructor
    · simp only [decide_eq_true_eq]
      omega
    · simp only [decide_eq_true_eq]
      omega
  exact ⟨ranking, by decide, the_heap_is_a_removable_priority_queue ranking _⟩

end Calls
end LocHeapNode
end Msm8917Common
