import Mathlib.Data.List.Nodup
import Mathlib.Logic.Relation

/-! Circular lists through a head that belongs to no item. The nodes point at one another
both ways; a node is linked in or taken out by changing the pointers of its neighbours.
Nothing here names a particular program. -/
namespace Msm8917Common.CircularList
variable {Node : Type*}

/-- The pointers of all nodes. -/
structure Links (Node : Type*) where
  next : Node → Option Node
  prev : Node → Option Node

/-- One node points on to the other, which points back. -/
def Linked (links : Links Node) (before after : Node) : Prop :=
  links.next before = some after ∧ links.prev after = some before

/-- The nodes in between are linked one after the other. -/
def Segment (links : Links Node) : Node → List Node → Node → Prop
  | before, [], after => Linked links before after
  | before, node :: nodes, after => Linked links before node ∧ Segment links node nodes after

/-- From the head through these nodes and back to it, each of them once. -/
structure Ring (links : Links Node) (head : Node) (nodes : List Node) : Prop where
  around : Segment links head nodes head
  nodup : (head :: nodes).Nodup

variable {links changed : Links Node} {before after head node list : Node}
  {nodes rest : List Node}

theorem segment_append : Segment links before (nodes ++ node :: rest) after ↔
    Segment links before nodes node ∧ Segment links node rest after := by
  induction nodes generalizing before with
  | nil => rfl
  | cons first nodes ih => rw [List.cons_append, Segment, Segment, ih, and_assoc]

/-- The pointers that lie inside are what counts. -/
theorem Segment.congr (linked : Segment links before nodes after)
    (next : ∀ node ∈ before :: nodes, changed.next node = links.next node)
    (prev : ∀ node ∈ nodes ++ [after], changed.prev node = links.prev node) :
    Segment changed before nodes after := by
  induction nodes generalizing before with
  | nil =>
    exact ⟨(next _ List.mem_cons_self).trans linked.1, (prev _ List.mem_cons_self).trans linked.2⟩
  | cons first nodes ih =>
    obtain ⟨here, later⟩ := linked
    rw [List.forall_mem_cons] at next
    rw [List.cons_append, List.forall_mem_cons] at prev
    exact ⟨⟨next.1.trans here.1, prev.1.trans here.2⟩, ih later next.2 prev.2⟩

/-- What the end of a segment points back to. -/
theorem Segment.prev (linked : Segment links before nodes after) :
    links.prev after = some (nodes.getLastD before) := by
  induction nodes generalizing before with
  | nil => exact linked.2
  | cons first nodes ih =>
    rw [List.getLastD_cons]
    exact ih linked.2

/-- What its start points on to. -/
theorem Segment.next (linked : Segment links before nodes after) :
    links.next before = some (nodes.headD after) := by
  cases nodes with
  | nil => exact linked.1
  | cons first nodes => exact linked.1.1

/-- Its start leads to its end. -/
theorem Segment.reaches (linked : Segment links before nodes after) :
    Relation.ReflTransGen (fun node following => links.next node = some following)
      before after := by
  induction nodes generalizing before with
  | nil => exact .single linked.1
  | cons first nodes ih => exact .head linked.1.1 (ih linked.2)

/-- There is one way from its start to its end. -/
theorem Segment.unique {others : List Node} (linked : Segment links before nodes after)
    (other : Segment links before others after) (outside : after ∉ nodes)
    (otherOutside : after ∉ others) : nodes = others := by
  induction nodes generalizing before others with
  | nil =>
    cases others with
    | nil => rfl
    | cons node others =>
      have same : after = node := Option.some.inj (linked.1.symm.trans other.1.1)
      exact absurd (same ▸ List.mem_cons_self) otherOutside
  | cons node nodes ih =>
    cases others with
    | nil =>
      have same : node = after := Option.some.inj (linked.1.1.symm.trans other.1)
      exact absurd (same ▸ List.mem_cons_self) outside
    | cons second others =>
      obtain rfl : node = second := Option.some.inj (linked.1.1.symm.trans other.1.1)
      rw [ih linked.2 other.2 (List.not_mem_of_not_mem_cons outside)
        (List.not_mem_of_not_mem_cons otherOutside)]

theorem Ring.unique {others : List Node} (ring : Ring links head nodes)
    (other : Ring links head others) : nodes = others :=
  ring.around.unique other.around (List.nodup_cons.mp ring.nodup).1
    (List.nodup_cons.mp other.nodup).1

/-- The nodes of a ring are what the head leads to. -/
theorem Ring.reaches_iff (ring : Ring links head nodes) :
    Relation.ReflTransGen (fun node following => links.next node = some following) head node ↔
      node ∈ head :: nodes := by
  constructor
  · intro reached
    induction reached with
    | refl => exact List.mem_cons_self
    | @tail node following _ step ih =>
      have closed : Segment links head nodes head := ring.around
      rcases List.mem_cons.mp ih with rfl | member
      · rw [closed.next, Option.some.injEq] at step
        cases nodes with
        | nil => exact step ▸ List.mem_cons_self
        | cons first nodes => exact step ▸ List.mem_cons_of_mem _ List.mem_cons_self
      · obtain ⟨front, back, rfl⟩ := List.append_of_mem member
        rw [(segment_append.mp closed).2.next, Option.some.injEq] at step
        cases back with
        | nil => exact step ▸ List.mem_cons_self
        | cons first back => exact step ▸ by simp
  · intro member
    rcases List.mem_cons.mp member with rfl | member
    · exact .refl
    · obtain ⟨front, back, rfl⟩ := List.append_of_mem member
      exact (segment_append.mp ring.around).1.reaches

/-! Linking a node in -/

/-- The node comes between `before` and `list`. -/
structure Inserts (links : Links Node) (before node list : Node) (changed : Links Node) :
    Prop where
  next_before : changed.next before = some node
  next_node : changed.next node = some list
  prev_list : changed.prev list = some node
  prev_node : changed.prev node = some before
  next_other : ∀ other, other ≠ before → other ≠ node → changed.next other = links.next other
  prev_other : ∀ other, other ≠ list → other ≠ node → changed.prev other = links.prev other

/-- At the end of a segment. -/
theorem Segment.concat (linked : Segment links before nodes list)
    (nodup : (before :: nodes).Nodup) (fresh : node ∉ before :: nodes) (outside : list ∉ nodes)
    (inserts : Inserts links (nodes.getLastD before) node list changed) :
    Segment changed before (nodes ++ [node]) list := by
  induction nodes generalizing before with
  | nil =>
    exact ⟨⟨inserts.next_before, inserts.prev_node⟩, inserts.next_node, inserts.prev_list⟩
  | cons first nodes ih =>
    rw [List.getLastD_cons] at inserts
    rw [List.nodup_cons] at nodup
    rw [List.mem_cons, not_or] at fresh outside
    refine ⟨⟨?_, ?_⟩, ih linked.2 nodup.2 fresh.2 outside.2 inserts⟩
    · rw [inserts.next_other before _ (Ne.symm fresh.1)]
      · exact linked.1.1
      · exact fun last => nodup.1 (last ▸ List.getLastD_mem_cons)
    · rw [inserts.prev_other first (Ne.symm outside.1)]
      · exact linked.1.2
      · exact fun same => fresh.2 (same ▸ List.mem_cons_self)

/-- In front of any node of a ring, or of its head. -/
theorem Ring.insert (ring : Ring links head (nodes ++ rest))
    (fresh : node ∉ head :: (nodes ++ rest))
    (inserts : Inserts links (nodes.getLastD head) node (rest.headD head) changed) :
    Ring changed head (nodes ++ node :: rest) := by
  have nodup := ring.nodup
  rw [← List.cons_append, List.nodup_append] at nodup
  rw [← List.cons_append, List.mem_append, not_or] at fresh
  obtain ⟨front, back, apart⟩ := nodup
  have last : nodes.getLastD head ∈ head :: nodes := List.getLastD_mem_cons
  refine ⟨segment_append.mpr ?_, ?_⟩
  · cases rest with
    | nil =>
      have linked : Segment links head nodes head := List.append_nil nodes ▸ ring.around
      exact segment_append.mp
        (linked.concat front fresh.1 (List.nodup_cons.mp front).1 inserts)
    | cons list rest =>
      obtain ⟨ahead, behind⟩ := segment_append.mp ring.around
      have outside : list ∉ head :: nodes := fun member =>
        apart list member list List.mem_cons_self rfl
      obtain ⟨start, stop⟩ := segment_append.mp
        (ahead.concat front fresh.1 (fun member => outside (List.mem_cons_of_mem _ member)) inserts)
      refine ⟨start, stop, behind.congr (fun other member => ?_) (fun other member => ?_)⟩
      · apply inserts.next_other
        · exact fun same => apart _ last other member same.symm
        · exact fun same => fresh.2 (same ▸ member)
      · apply inserts.prev_other
        · rintro rfl
          rcases List.mem_append.mp member with twice | closing
          · exact (List.nodup_cons.mp back).1 twice
          · exact outside (List.mem_singleton.mp closing ▸ List.mem_cons_self)
        · rintro rfl
          rcases List.mem_append.mp member with later | closing
          · exact fresh.2 (List.mem_cons_of_mem _ later)
          · exact fresh.1 (List.mem_singleton.mp closing ▸ List.mem_cons_self)
  · have moved : ((head :: nodes) ++ node :: rest).Perm (node :: ((head :: nodes) ++ rest)) :=
      List.perm_middle
    rw [List.cons_append, List.cons_append] at moved
    rw [moved.nodup_iff, List.nodup_cons, ← List.cons_append, List.mem_append]
    exact ⟨fun member => member.elim fresh.1 fresh.2, ring.nodup⟩

/-- Elsewhere nothing changes. -/
theorem Ring.congr (ring : Ring links head nodes)
    (next : ∀ node ∈ head :: nodes, changed.next node = links.next node)
    (prev : ∀ node ∈ head :: nodes, changed.prev node = links.prev node) :
    Ring changed head nodes := by
  refine ⟨ring.around.congr next fun node member => prev node ?_, ring.nodup⟩
  rcases List.mem_append.mp member with inside | closing
  · exact List.mem_cons_of_mem _ inside
  · exact List.mem_singleton.mp closing ▸ List.mem_cons_self

/-! Taking a node out -/

/-- The neighbours of the node are linked to one another. -/
structure Removes (links : Links Node) (before node after : Node) (changed : Links Node) :
    Prop where
  next_before : changed.next before = some after
  prev_after : changed.prev after = some before
  next_other : ∀ other, other ≠ before → other ≠ node → changed.next other = links.next other
  prev_other : ∀ other, other ≠ after → other ≠ node → changed.prev other = links.prev other

/-- The first node of a ring. -/
theorem Ring.remove (ring : Ring links head (node :: rest))
    (removes : Removes links head node (rest.headD head) changed) : Ring changed head rest := by
  have nodup := ring.nodup
  obtain ⟨-, linked⟩ := ring.around
  simp only [List.nodup_cons, List.mem_cons, not_or] at nodup
  obtain ⟨⟨apart, outside⟩, absent, inner⟩ := nodup
  refine ⟨?_, List.nodup_cons.mpr ⟨outside, inner⟩⟩
  cases rest with
  | nil => exact ⟨removes.next_before, removes.prev_after⟩
  | cons first rest =>
    refine ⟨⟨removes.next_before, removes.prev_after⟩, linked.2.congr (fun other member => ?_)
      (fun other member => ?_)⟩
    · apply removes.next_other
      · exact fun same => outside (same ▸ member)
      · exact fun same => absent (same ▸ member)
    · apply removes.prev_other
      · rintro rfl
        rcases List.mem_append.mp member with twice | closing
        · exact (List.nodup_cons.mp inner).1 twice
        · exact outside (List.mem_singleton.mp closing ▸ List.mem_cons_self)
      · rintro rfl
        rcases List.mem_append.mp member with later | closing
        · exact absent (List.mem_cons_of_mem _ later)
        · exact apart (List.mem_singleton.mp closing).symm

end Msm8917Common.CircularList
