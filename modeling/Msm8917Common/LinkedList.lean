import Msm8917Common.DoublyLinked

/-! `linked_list.c`: a doubly linked list on the heap, with elements added at the head
and removed from the tail. An access to memory that is not allocated ends a function
with `none`; so does a loop that meets more elements than there are. -/
namespace Msm8917Common.LinkedList
open DoublyLinked

/-- `linked_list_err_type`. -/
inductive ErrType where
  | success | failureGeneral | invalidParameter | invalidHandle | unavailableResource
  | insufficientBuffer
  deriving DecidableEq

/-- The data of a `list_element`: the pointer and its `dealloc_func`, if it has one. -/
structure Entry where
  data_ptr : Nat
  dealloc_func : Option Nat
  deriving DecidableEq

/-- A `list_element` with the pointers to its neighbours. -/
abbrev ListElement := Cell Entry

/-- The `list_state` with the elements on the heap. `deallocated` records the calls
of the `dealloc_func`s. -/
structure ListState where
  p_head : Option Nat
  p_tail : Option Nat
  heap : Memory Entry
  deallocated : List (Nat × Nat)

/-- What a function returns. `data_obj` is what it writes to the pointer that it was
given, `none` where it writes nothing. -/
structure Returned where
  rv : ErrType
  data_obj : Option (Option Nat)
  deriving DecidableEq

/-- After `linked_list_init`. -/
def linked_list_init : ListState := ⟨none, none, ∅, []⟩

/-- What `malloc` gives: an address that is not in use, or a null pointer. -/
def malloc (chosen : Option Nat) (heap : Memory Entry) : Option Nat :=
  chosen.filter fun address => address ∉ heap

def ListState.modify (list : ListState) (address : Nat) (change : ListElement → ListElement) :
    Option ListState :=
  (DoublyLinked.modify address change list.heap).map fun heap => { list with heap }

/-- `free`. -/
def ListState.free (list : ListState) (address : Nat) : Option ListState :=
  if address ∈ list.heap then some { list with heap := list.heap.erase address } else none

def ListState.dealloc (list : ListState) (entry : Entry) : ListState :=
  match entry.dealloc_func with
  | none => list
  | some dealloc_func =>
    { list with deallocated := list.deallocated ++ [(dealloc_func, entry.data_ptr)] }

/-- Whatever stands before a place, an element or the list's head, leads on to `next`. -/
def ListState.linkNext (list : ListState) (before next : Option Nat) : Option ListState :=
  match before with
  | none => some { list with p_head := next }
  | some before => list.modify before fun element => { element with next }

/-- Whatever stands after a place, an element or the list's tail, leads back to `prev`. -/
def ListState.linkPrev (list : ListState) (after prev : Option Nat) : Option ListState :=
  match after with
  | none => some { list with p_tail := prev }
  | some after => list.modify after fun element => { element with prev }

def linked_list_add (data_obj dealloc chosen : Option Nat) (list : ListState) :
    Option (Returned × ListState) :=
  match data_obj with
  | none => some (⟨.invalidParameter, none⟩, list)
  | some data_obj =>
    match malloc chosen list.heap with
    | none => some (⟨.failureGeneral, none⟩, list)
    | some elem => do
      let tmp := list.p_head
      let list := { list with
        heap := list.heap.insert elem ⟨none, none, data_obj, dealloc⟩
        p_head := some elem }
      let list ← list.modify elem fun element => { element with next := tmp }
      let list ← list.linkPrev tmp (some elem)
      return (⟨.success, none⟩, list)

/-- `data_obj` says whether there is a place for the data. -/
def linked_list_remove (data_obj : Bool) (list : ListState) : Option (Returned × ListState) :=
  if !data_obj then some (⟨.invalidParameter, none⟩, list)
  else
    match list.p_tail with
    | none => some (⟨.unavailableResource, none⟩, list)
    | some tmp => do
      let element ← list.heap.lookup tmp
      let list := { list with p_tail := element.prev }
      let list ← list.linkNext list.p_tail none
      let element ← list.heap.lookup tmp
      let list ← list.free tmp
      return (⟨.success, some (some element.item.data_ptr)⟩, list)

def linked_list_empty (list : ListState) : Bool := list.p_head.isNone

/-- The loop of `linked_list_flush`, for at most so many elements. -/
def flushLoop : Nat → ListState → Option ListState
  | 0, list => if list.p_head.isNone then some list else none
  | fuel + 1, list =>
    match list.p_head with
    | none => some list
    | some head => do
      let element ← list.heap.lookup head
      let list ← (list.dealloc element.item).free head
      flushLoop fuel { list with p_head := element.next }

def linked_list_flush (list : ListState) : Option (Returned × ListState) :=
  (flushLoop list.heap.keys.length list).map fun list =>
    (⟨.success, none⟩, { list with p_tail := none })

/-- The part of `linked_list_search` under `rm_if_found`. -/
def unlink (data_p : Bool) (tmp : Nat) (list : ListState) : Option ListState := do
  let element ← list.heap.lookup tmp
  let list ← list.linkNext element.prev element.next
  let element ← list.heap.lookup tmp
  let list ← list.linkPrev element.next element.prev
  let list ← list.modify tmp fun element => { element with next := none, prev := none }
  let list := if data_p then list else list.dealloc element.item
  list.free tmp

/-- The loop of `linked_list_search`. `found` is what it has written to `data_p`. -/
def searchLoop (equal : Nat → Bool) (data_p rm_if_found : Bool) :
    Nat → Option Nat → ListState → Option (Option Nat × ListState)
  | _, none, list => some (none, list)
  | 0, some _, _ => none
  | fuel + 1, some tmp, list => do
    let element ← list.heap.lookup tmp
    if equal element.item.data_ptr then
      let list ← if rm_if_found then unlink data_p tmp list else some list
      return (some element.item.data_ptr, list)
    else searchLoop equal data_p rm_if_found fuel element.next list

/-- `equal` is the comparison with `data_0`, `none` if there is no function, and
`data_p` says whether there is a place for the data. -/
def linked_list_search (data_p : Bool) (equal : Option (Nat → Bool)) (rm_if_found : Bool)
    (list : ListState) : Option (Returned × ListState) :=
  match equal with
  | none => some (⟨.invalidHandle, none⟩, list)
  | some equal =>
    match list.p_tail with
    | none => some (⟨.unavailableResource, none⟩, list)
    | some _ => do
      let (found, list) ← searchLoop equal data_p rm_if_found list.heap.keys.length list.p_head list
      return (⟨.success, if data_p then some found else none⟩, list)

/-- A call on the list. -/
inductive Call where
  | add (data_obj dealloc chosen : Option Nat)
  | remove (data_obj : Bool)
  | search (data_p : Bool) (equal : Option (Nat → Bool)) (rm_if_found : Bool)
  | flush

def ListState.call (list : ListState) : Call → Option (Returned × ListState)
  | .add data_obj dealloc chosen => linked_list_add data_obj dealloc chosen list
  | .remove data_obj => linked_list_remove data_obj list
  | .search data_p equal rm_if_found => linked_list_search data_p equal rm_if_found list
  | .flush => linked_list_flush list

/-- The list after a call, unchanged where the call has no end. -/
def ListState.step (list : ListState) (made : Call) : ListState :=
  ((list.call made).map Prod.snd).getD list

/-! What the list is for -/

/-- The entries, the newest first, and what was deallocated. -/
structure Sequence where
  entries : List Entry
  deallocated : List (Nat × Nat)

namespace Sequence

/-- The call of `dealloc_func` for an entry, if it has one. -/
def deallocation (entry : Entry) : Option (Nat × Nat) :=
  entry.dealloc_func.map fun dealloc_func => (dealloc_func, entry.data_ptr)

/-- The same calls on the sequence. `allocated` says whether there was memory. -/
def call (allocated : Bool) (sequence : Sequence) : Call → Returned × Sequence
  | .add none _ _ => (⟨.invalidParameter, none⟩, sequence)
  | .add (some data_obj) dealloc _ =>
    if allocated then
      (⟨.success, none⟩, { sequence with entries := ⟨data_obj, dealloc⟩ :: sequence.entries })
    else (⟨.failureGeneral, none⟩, sequence)
  | .remove false => (⟨.invalidParameter, none⟩, sequence)
  | .remove true =>
    match sequence.entries.getLast? with
    | none => (⟨.unavailableResource, none⟩, sequence)
    | some oldest => (⟨.success, some (some oldest.data_ptr)⟩,
        { sequence with entries := sequence.entries.dropLast })
  | .search _ none _ => (⟨.invalidHandle, none⟩, sequence)
  | .search data_p (some equal) rm_if_found =>
    let same := fun entry : Entry => equal entry.data_ptr
    if sequence.entries = [] then (⟨.unavailableResource, none⟩, sequence)
    else
      (⟨.success, if data_p then some ((sequence.entries.find? same).map (·.data_ptr)) else none⟩,
        if rm_if_found then
          { entries := sequence.entries.eraseP same
            deallocated := sequence.deallocated ++
              if data_p then [] else (sequence.entries.find? same).toList.filterMap deallocation }
        else sequence)
  | .flush => (⟨.success, none⟩,
      { entries := []
        deallocated := sequence.deallocated ++ sequence.entries.filterMap deallocation })

end Sequence

/-- The sequence that a list stands for, read from its head on. -/
def ListState.sequence (list : ListState) : Sequence where
  entries := (forward list.heap list.heap.keys.length list.p_head).getD []
  deallocated := list.deallocated

/-- Whether a call that needs memory gets it. -/
def ListState.allocates (list : ListState) : Call → Bool
  | .add _ _ chosen => (malloc chosen list.heap).isSome
  | _ => true

end Msm8917Common.LinkedList
