import Msm8917Common.LinkedList
import Msm8917Common.Runs

/-! `linked_list.c` keeps a well-formed doubly linked list and behaves as the abstract
sequence, over any sequence of calls. One lemma for each function says which cells the
list consists of after it. -/
namespace Msm8917Common.LinkedList
open DoublyLinked Runs

/-- The list consists of these cells, each at its address. -/
structure Holds (list : ListState) (cells : List (Nat × Entry)) : Prop where
  linked : Segment list.heap none cells none
  distinct : (cells.map Prod.fst).Nodup
  head : list.p_head = first cells none
  tail : list.p_tail = last none cells

/-- The way back from the tail is the way from the head reversed, and head and tail
are null together. -/
def WellFormed (list : ListState) : Prop :=
  (∃ entries, forward list.heap list.heap.keys.length list.p_head = some entries ∧
    backward list.heap list.heap.keys.length list.p_tail = some entries.reverse) ∧
  (list.p_head = none ↔ list.p_tail = none)

variable {list : ListState} {cells rest : List (Nat × Entry)} {cell : Nat × Entry}

theorem Holds.wellFormed (holds : Holds list cells) : WellFormed list := by
  have enough := length_le_of_segment holds.linked holds.distinct
  refine ⟨⟨cells.map Prod.snd, ?_, ?_⟩, ?_⟩
  · rw [holds.head, forward_of_segment holds.linked enough]
  · rw [holds.tail, backward_of_segment holds.linked enough, List.map_reverse]
  · rw [holds.head, holds.tail, first_eq_none, last_eq_none]

theorem Holds.entries (holds : Holds list cells) : list.sequence.entries = cells.map Prod.snd := by
  have enough := length_le_of_segment holds.linked holds.distinct
  simp only [ListState.sequence, holds.head, forward_of_segment holds.linked enough,
    Option.getD_some]

theorem holds_init : Holds linked_list_init [] :=
  ⟨trivial, List.nodup_nil, rfl, rfl⟩

theorem allocated_of_lookup {memory : Memory Entry} {address : Nat} {element : ListElement}
    (found : memory.lookup address = some element) : address ∈ memory :=
  AList.lookup_isSome.mp (by rw [found]; rfl)

/-- In a list with one cell between the others, no other cell has its address. -/
theorem outside_of_distinct (distinct : ((cells ++ cell :: rest).map Prod.fst).Nodup) :
    cell.1 ∉ cells.map Prod.fst ∧ cell.1 ∉ rest.map Prod.fst ∧
      ((cells ++ rest).map Prod.fst).Nodup := by
  rw [List.map_append, List.map_cons, List.nodup_middle, List.nodup_cons,
    List.mem_append, not_or] at distinct
  rw [List.map_append]
  exact ⟨distinct.1.1, distinct.1.2, distinct.2⟩

/-- The cells before a place are linked on to something else. -/
theorem linkNext_spec (list : ListState) {after : Option Nat} (next : Option Nat)
    (linked : Segment list.heap none cells after) (distinct : (cells.map Prod.fst).Nodup)
    (head : list.p_head = first cells after) :
    ∃ written, list.linkNext (last none cells) next =
        some { list with p_head := first cells next, heap := written } ∧
      Segment written none cells next ∧
      ∀ address ∉ cells.map Prod.fst, written.lookup address = list.heap.lookup address := by
  rcases relink_last next linked distinct with
    ⟨empty, rfl⟩ | ⟨tail, written, found, member, changed, relinked, agree⟩
  · exact ⟨list.heap, rfl, trivial, fun _ _ => rfl⟩
  · have same : list.p_head = first cells next := by
      cases cells with
      | nil => cases found
      | cons cell cells => exact head
    refine ⟨written, ?_, relinked, fun address apart => agree address fun here => ?_⟩
    · rw [found, ← same]
      simp only [ListState.linkNext, ListState.modify, changed, Option.map_some]
    · exact apart (here ▸ member)

/-- The cells after a place are linked back to something else. -/
theorem linkPrev_spec (list : ListState) {before : Option Nat} (prev : Option Nat)
    (linked : Segment list.heap before cells none) (distinct : (cells.map Prod.fst).Nodup)
    (tail : list.p_tail = last before cells) :
    ∃ written, list.linkPrev (first cells none) prev =
        some { list with p_tail := last prev cells, heap := written } ∧
      Segment written prev cells none ∧
      ∀ address ∉ cells.map Prod.fst, written.lookup address = list.heap.lookup address := by
  rcases relink_first prev linked distinct with
    ⟨empty, rfl⟩ | ⟨head, written, found, member, changed, relinked, agree⟩
  · exact ⟨list.heap, rfl, trivial, fun _ _ => rfl⟩
  · have same : list.p_tail = last prev cells := by
      cases cells with
      | nil => cases found
      | cons cell cells => exact tail
    refine ⟨written, ?_, relinked, fun address apart => agree address fun here => ?_⟩
    · rw [found, ← same]
      simp only [ListState.linkPrev, ListState.modify, changed, Option.map_some]
    · exact apart (here ▸ member)

/-! One lemma for each function -/

theorem linked_list_add_spec {elem data_obj : Nat} {dealloc chosen : Option Nat}
    (holds : Holds list cells) (allocated : malloc chosen list.heap = some elem) :
    ∃ after, linked_list_add (some data_obj) dealloc chosen list =
        some (⟨.success, none⟩, after) ∧
      Holds after ((elem, ⟨data_obj, dealloc⟩) :: cells) ∧
      after.deallocated = list.deallocated := by
  have fresh : elem ∉ list.heap := by
    obtain ⟨_, free⟩ := Option.filter_eq_some_iff.mp allocated
    exact of_decide_eq_true free
  have outside : elem ∉ cells.map Prod.fst := by
    intro member
    obtain ⟨cell, inside, rfl⟩ := List.mem_map.mp member
    exact fresh (mem_of_segment holds.linked inside)
  -- The new element points on to the old head before the old head points back.
  let between := (list.heap.insert elem ⟨none, none, ⟨data_obj, dealloc⟩⟩).insert elem
    ⟨list.p_head, none, ⟨data_obj, dealloc⟩⟩
  have placed : between.lookup elem = some ⟨list.p_head, none, ⟨data_obj, dealloc⟩⟩ :=
    AList.lookup_insert _
  have pointed : DoublyLinked.modify elem (fun element => { element with next := list.p_head })
      (list.heap.insert elem ⟨none, none, ⟨data_obj, dealloc⟩⟩) = some between := by
    rw [DoublyLinked.modify, AList.lookup_insert]
    rfl
  have old : Segment between none cells none :=
    segment_insert (segment_insert holds.linked outside) outside
  let list' : ListState := { list with p_head := some elem, heap := between }
  obtain ⟨written, linkedBack, relinked, agree⟩ :=
    linkPrev_spec list' (some elem) old holds.distinct holds.tail
  refine ⟨⟨some elem, last (some elem) cells, written, list.deallocated⟩, ?_,
    ⟨⟨?_, relinked⟩, List.nodup_cons.mpr ⟨outside, holds.distinct⟩, rfl, rfl⟩, rfl⟩
  · rw [← holds.head] at linkedBack
    simp only [linked_list_add, allocated, ListState.modify, pointed, Option.map_some,
      Option.bind_eq_bind, Option.bind_some, linkedBack, list']
    rfl
  · rw [agree elem outside, placed, holds.head]

theorem linked_list_remove_spec (holds : Holds list (cells ++ [cell])) :
    ∃ after, linked_list_remove true list =
        some (⟨.success, some (some cell.2.data_ptr)⟩, after) ∧
      Holds after cells ∧ after.deallocated = list.deallocated := by
  obtain ⟨earlier, here, _⟩ := segment_append.mp holds.linked
  obtain ⟨outside, _, distinct⟩ := outside_of_distinct holds.distinct
  rw [List.append_nil] at distinct
  have found_tail : list.p_tail = some cell.1 := by rw [holds.tail, last_append]; rfl
  let list' : ListState := { list with p_tail := last none cells }
  obtain ⟨written, linkedOn, relinked, agree⟩ := linkNext_spec list' none earlier distinct
    (holds.head.trans (first_append cells [cell] none))
  have still := (agree cell.1 outside).trans here
  refine ⟨⟨first cells none, last none cells, written.erase cell.1, list.deallocated⟩, ?_,
    ⟨segment_erase relinked outside, distinct, rfl, rfl⟩, rfl⟩
  simp only [linked_list_remove, found_tail, here, Bool.not_true, Bool.false_eq_true, if_false,
    Option.bind_eq_bind, Option.bind_some, linkedOn, list', still, ListState.free,
    allocated_of_lookup still, if_true]
  rfl

/-- What `dealloc` records, as in the abstract sequence. -/
theorem dealloc_eq (list : ListState) (entry : Entry) : list.dealloc entry =
    { list with
      deallocated := list.deallocated ++ (Sequence.deallocation entry).toList } := by
  cases found : entry.dealloc_func <;> simp [ListState.dealloc, Sequence.deallocation, found]

/-- The neighbours of an element are linked to each other, whatever element it is. -/
theorem unlink_spec (data_p : Bool) (holds : Holds list (cells ++ cell :: rest)) :
    ∃ after, unlink data_p cell.1 list = some after ∧ Holds after (cells ++ rest) ∧
      after.deallocated = list.deallocated ++
        if data_p then [] else (Sequence.deallocation cell.2).toList := by
  obtain ⟨earlier, here, later⟩ := segment_append.mp holds.linked
  obtain ⟨outside, notLater, distinct⟩ := outside_of_distinct holds.distinct
  have both := distinct
  rw [List.map_append] at both
  have apart := List.disjoint_of_nodup_append both
  -- The element before is linked on to the one after.
  obtain ⟨written, linkedOn, relinked, agree⟩ := linkNext_spec list (first rest none) earlier
    (List.Nodup.of_append_left both) (holds.head.trans (first_append cells (cell :: rest) none))
  have still := (agree cell.1 outside).trans here
  have after_it : Segment written (some cell.1) rest none :=
    segment_of_agree later fun inside member =>
      agree _ fun before => apart before (List.mem_map_of_mem member)
  -- The element after is linked back to the one before.
  let list' : ListState := { list with p_head := first cells (first rest none), heap := written }
  obtain ⟨rewritten, linkedBack, back, same⟩ := linkPrev_spec list' (last none cells)
    after_it (List.Nodup.of_append_right both)
    (holds.tail.trans (last_append none cells (cell :: rest)))
  have kept := (same cell.1 notLater).trans still
  have linked : Segment rewritten none (cells ++ rest) none := by
    refine segment_append.mpr ⟨segment_of_agree relinked fun inside member => same _ ?_, back⟩
    exact fun later => apart (List.mem_map_of_mem member) later
  have gone : cell.1 ∉ (cells ++ rest).map Prod.fst := by
    rw [List.map_append, List.mem_append, not_or]
    exact ⟨outside, notLater⟩
  let cleared := rewritten.insert cell.1 ⟨none, none, cell.2⟩
  have clears : DoublyLinked.modify cell.1
      (fun element => { element with next := none, prev := none }) rewritten = some cleared := by
    rw [DoublyLinked.modify, kept]
    rfl
  have still_allocated : cell.1 ∈ cleared := (AList.mem_insert _).mpr (.inl rfl)
  refine ⟨⟨first cells (first rest none), last (last none cells) rest, cleared.erase cell.1,
    list.deallocated ++ if data_p then [] else (Sequence.deallocation cell.2).toList⟩, ?_,
    ⟨segment_erase (segment_insert linked gone) gone, distinct, (first_append _ _ _).symm,
      (last_append _ _ _).symm⟩, rfl⟩
  simp only [unlink, here, Option.bind_eq_bind, Option.bind_some, linkedOn, still, list',
    linkedBack, ListState.modify, clears, Option.map_some, dealloc_eq]
  cases data_p <;> simp [ListState.free, still_allocated]

section Search
variable (equal : Nat → Bool) (data_p rm_if_found : Bool)

/-- The comparison with the data of a cell. -/
private def matching (cell : Nat × Entry) : Bool := equal cell.2.data_ptr

theorem searchLoop_spec {fuel : Nat} (holds : Holds list (cells ++ rest))
    (enough : rest.length ≤ fuel) :
    ∃ after, searchLoop equal data_p rm_if_found fuel (first rest none) list =
        some ((rest.find? (matching equal)).map (·.2.data_ptr), after) ∧
      Holds after (cells ++ if rm_if_found then rest.eraseP (matching equal) else rest) ∧
      after.deallocated = list.deallocated ++
        if rm_if_found && !data_p then
          (rest.find? (matching equal)).toList.filterMap (Sequence.deallocation ·.2)
        else [] := by
  induction rest generalizing cells fuel with
  | nil => exact ⟨list, by cases fuel <;> rfl, by simpa using holds, by simp⟩
  | cons cell rest ih =>
    cases fuel with
    | zero => exact absurd enough (Nat.not_succ_le_zero _)
    | succ fuel =>
      obtain ⟨_, here, _⟩ := segment_append.mp holds.linked
      cases same : equal cell.2.data_ptr with
      | true =>
        have found : matching equal cell = true := same
        cases rm_if_found with
        | true =>
          obtain ⟨after, unlinked, left, deallocated⟩ := unlink_spec data_p holds
          refine ⟨after, ?_, by simpa [List.eraseP_cons, found] using left, ?_⟩
          · simp [first, searchLoop, here, same, found, unlinked]
          · rw [deallocated]
            cases data_p <;> cases freed : Sequence.deallocation cell.2 <;> simp [found, freed]
        | false => exact ⟨list, by simp [first, searchLoop, here, same, found], holds, by simp⟩
      | false =>
        have other : matching equal cell = false := same
        have onward : Holds list ((cells ++ [cell]) ++ rest) := by simpa using holds
        obtain ⟨after, searched, left, deallocated⟩ := ih onward (Nat.le_of_succ_le_succ enough)
        refine ⟨after, ?_, ?_, ?_⟩
        · simpa [first, searchLoop, here, same, other] using searched
        · cases rm_if_found <;> simpa [List.eraseP_cons, other] using left
        · simpa [List.find?_cons, other] using deallocated

end Search

theorem flushLoop_spec {fuel : Nat} {before : Option Nat}
    (linked : Segment list.heap before cells none) (distinct : (cells.map Prod.fst).Nodup)
    (head : list.p_head = first cells none) (enough : cells.length ≤ fuel) :
    ∃ after, flushLoop fuel list = some after ∧ after.p_head = none ∧
      after.deallocated = list.deallocated ++ cells.filterMap (Sequence.deallocation ·.2) := by
  induction cells generalizing list before fuel with
  | nil =>
    have none_left : list.p_head = none := head
    exact ⟨list, by cases fuel <;> simp [flushLoop, none_left], none_left, by simp⟩
  | cons cell cells ih =>
    cases fuel with
    | zero => exact absurd enough (Nat.not_succ_le_zero _)
    | succ fuel =>
      obtain ⟨here, later⟩ := linked
      obtain ⟨outside, distinct⟩ := List.nodup_cons.mp distinct
      let cut : ListState := ⟨first cells none, list.p_tail, list.heap.erase cell.1,
        list.deallocated ++ (Sequence.deallocation cell.2).toList⟩
      have linked : Segment cut.heap (some cell.1) cells none := segment_erase later outside
      obtain ⟨after, flushed, empty, deallocated⟩ :=
        ih linked distinct rfl (Nat.le_of_succ_le_succ enough)
      refine ⟨after, ?_, empty, ?_⟩
      · have found : list.p_head = some cell.1 := head
        simpa [flushLoop, found, here, dealloc_eq, ListState.free, allocated_of_lookup here]
          using flushed
      · rw [deallocated]
        change list.deallocated ++ (Sequence.deallocation cell.2).toList ++ _ = _
        cases freed : Sequence.deallocation cell.2 <;> simp [freed]

/-! The calls -/

/-- The call ends, leaves a list of known cells, and does what the sequence does. -/
private def Refines (list : ListState) (cells : List (Nat × Entry)) (made : Call) : Prop :=
  ∃ returned after left, list.call made = some (returned, after) ∧ Holds after left ∧
    Sequence.call (list.allocates made) ⟨cells.map Prod.snd, list.deallocated⟩ made =
      (returned, ⟨left.map Prod.snd, after.deallocated⟩)

private theorem refines_unchanged (holds : Holds list cells) {made : Call} (returned : Returned)
    (called : list.call made = some (returned, list))
    (same : Sequence.call (list.allocates made) ⟨cells.map Prod.snd, list.deallocated⟩ made =
      (returned, ⟨cells.map Prod.snd, list.deallocated⟩)) : Refines list cells made :=
  ⟨returned, list, cells, called, holds, same⟩

private theorem add_refines (holds : Holds list cells) (data_obj : Nat)
    (dealloc chosen : Option Nat) : Refines list cells (.add (some data_obj) dealloc chosen) := by
  cases allocated : malloc chosen list.heap with
  | none =>
    exact refines_unchanged holds ⟨.failureGeneral, none⟩
      (by simp only [ListState.call, linked_list_add, allocated])
      (by simp [Sequence.call, ListState.allocates, allocated])
  | some elem =>
    obtain ⟨after, added, left, same⟩ := linked_list_add_spec holds allocated
    refine ⟨_, after, _, added, left, ?_⟩
    simp [Sequence.call, ListState.allocates, allocated, same]

private theorem remove_refines (holds : Holds list cells) :
    Refines list cells (.remove true) := by
  rcases cells.eq_nil_or_concat' with rfl | ⟨cells, cell, rfl⟩
  · have none_left : list.p_tail = none := holds.tail
    exact refines_unchanged holds ⟨.unavailableResource, none⟩
      (by simp [ListState.call, linked_list_remove, none_left]) rfl
  · obtain ⟨after, removed, left, same⟩ := linked_list_remove_spec holds
    refine ⟨_, after, _, removed, left, ?_⟩
    simp [Sequence.call, same]

private theorem search_refines (holds : Holds list cells) (data_p : Bool) (equal : Nat → Bool)
    (rm_if_found : Bool) : Refines list cells (.search data_p (some equal) rm_if_found) := by
  have enough := length_le_of_segment holds.linked holds.distinct
  cases tail : list.p_tail with
  | none =>
    have empty := last_eq_none.mp (holds.tail.symm.trans tail)
    exact refines_unchanged holds ⟨.unavailableResource, none⟩
      (by simp only [ListState.call, linked_list_search, tail])
      (by simp [Sequence.call, empty])
  | some oldest =>
    have some_left : cells ≠ [] := by
      rintro rfl
      cases tail.symm.trans holds.tail
    have from_head : Holds list ([] ++ cells) := holds
    obtain ⟨after, searched, left, deallocated⟩ :=
      searchLoop_spec equal data_p rm_if_found from_head enough
    rw [← holds.head] at searched
    refine ⟨⟨.success, if data_p then
      some ((cells.find? (matching equal)).map (·.2.data_ptr)) else none⟩, after, _, ?_, left, ?_⟩
    · simp only [ListState.call, linked_list_search, tail, searched, Option.bind_eq_bind,
        Option.bind_some]
      rfl
    · simp only [Sequence.call, List.map_eq_nil_iff, some_left, if_false, List.find?_map,
        List.eraseP_map, List.nil_append, deallocated,
        show (fun entry : Entry => equal entry.data_ptr) ∘ Prod.snd = matching equal from rfl]
      cases found : cells.find? (matching equal) <;>
        cases rm_if_found <;> cases data_p <;> simp [List.filterMap_cons]

private theorem flush_refines (holds : Holds list cells) : Refines list cells .flush := by
  have enough := length_le_of_segment holds.linked holds.distinct
  obtain ⟨after, flushed, empty, deallocated⟩ :=
    flushLoop_spec holds.linked holds.distinct holds.head enough
  refine ⟨⟨.success, none⟩, { after with p_tail := none }, [], ?_,
    ⟨trivial, List.nodup_nil, empty, rfl⟩, ?_⟩
  · simp only [ListState.call, linked_list_flush, flushed, Option.map_some]
  · simp [Sequence.call, deallocated, List.filterMap_map]

/-- Each call does, also with a null pointer. -/
theorem call_spec (holds : Holds list cells) (made : Call) :
    ∃ returned after left, list.call made = some (returned, after) ∧ Holds after left ∧
      Sequence.call (list.allocates made) ⟨cells.map Prod.snd, list.deallocated⟩ made =
        (returned, ⟨left.map Prod.snd, after.deallocated⟩) := by
  cases made with
  | add data_obj dealloc chosen =>
    cases data_obj with
    | none => exact refines_unchanged holds _ rfl rfl
    | some data_obj => exact add_refines holds data_obj dealloc chosen
  | remove data_obj =>
    cases data_obj with
    | false => exact refines_unchanged holds _ rfl rfl
    | true => exact remove_refines holds
  | search data_p equal rm_if_found =>
    cases equal with
    | none => exact refines_unchanged holds _ rfl rfl
    | some equal => exact search_refines holds data_p equal rm_if_found
  | flush => exact flush_refines holds

/-- A list that some cells make up. -/
def Sound (list : ListState) : Prop := ∃ cells, Holds list cells

theorem sound_step (list : ListState) (made : Call) (sound : Sound list) :
    Sound (list.step made) := by
  obtain ⟨cells, holds⟩ := sound
  obtain ⟨returned, after, left, called, still, _⟩ := call_spec holds made
  refine ⟨left, ?_⟩
  rw [ListState.step, called]
  exact still

/-- What a call does to the list is what it does to the sequence that it stands for. -/
theorem call_refines (list : ListState) (made : Call) (sound : Sound list) :
    list.call made = some ((Sequence.call (list.allocates made) list.sequence made).1,
        list.step made) ∧
      (list.step made).sequence = (Sequence.call (list.allocates made) list.sequence made).2 := by
  obtain ⟨cells, holds⟩ := sound
  obtain ⟨returned, after, left, called, still, same⟩ := call_spec holds made
  have stands : list.sequence = ⟨cells.map Prod.snd, list.deallocated⟩ :=
    congrArg (Sequence.mk · list.deallocated) holds.entries
  have stands_after : after.sequence = ⟨left.map Prod.snd, after.deallocated⟩ :=
    congrArg (Sequence.mk · after.deallocated) still.entries
  have stepped : list.step made = after := by rw [ListState.step, called]; rfl
  rw [stepped, called, stands, same, stands_after]
  exact ⟨rfl, rfl⟩

/-- Over any sequence of calls the list is well formed, and each call returns and
leaves what it does on the abstract sequence. -/
theorem the_list_refines_the_sequence (calls : List Call) :
    (∀ list ∈ states ListState.step linked_list_init calls, WellFormed list) ∧
      ∀ taken ∈ steps ListState.step linked_list_init calls,
        taken.1.call taken.2 = some ((Sequence.call (taken.1.allocates taken.2)
          taken.1.sequence taken.2).1, taken.1.step taken.2) ∧
        (taken.1.step taken.2).sequence =
          (Sequence.call (taken.1.allocates taken.2) taken.1.sequence taken.2).2 := by
  have start : Sound linked_list_init := ⟨[], holds_init⟩
  constructor
  · intro list visited
    obtain ⟨cells, holds⟩ := invariant_states sound_step calls start list visited
    exact holds.wellFormed
  · exact events_of_invariant sound_step call_refines calls start

end Msm8917Common.LinkedList
