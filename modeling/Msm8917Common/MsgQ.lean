import Msm8917Common.LinkedList

/-! `msg_q.c`: a queue of messages between threads, over `linked_list.c`. Each call is
taken whole under the queue's mutex, but for a receiver, which lets the mutex go while
it waits. -/
namespace Msm8917Common.MsgQ
open LinkedList (ListState linked_list_init linked_list_add linked_list_remove linked_list_empty
  linked_list_flush)

/-- `msq_q_err_type`. -/
inductive ErrType where
  | success | failureGeneral | invalidParameter | invalidHandle | unavailableResource
  | insufficientBuffer
  deriving DecidableEq

def convert_linked_list_err_type : LinkedList.ErrType → ErrType
  | .success => .success
  | .invalidParameter => .invalidParameter
  | .invalidHandle => .invalidHandle
  | .unavailableResource => .unavailableResource
  | .insufficientBuffer => .insufficientBuffer
  | .failureGeneral => .failureGeneral

/-- What a function returns, with what it writes to the pointer that it was given. -/
structure Returned where
  rv : ErrType
  msg_obj : Option (Option Nat)
  deriving DecidableEq

/-- `waiting` counts the receivers inside `pthread_cond_wait`. -/
structure Queue where
  msg_list : ListState
  unblocked : Bool
  waiting : Nat

def msg_q_init : Queue := ⟨linked_list_init, false, 0⟩

/-- The outer `none` is an access to memory that is not allocated, the inner one a
call that has not returned. -/
abbrev Outcome := Option (Option Returned × Queue)

/-- A result of the list is the result of the call. -/
def Queue.converted (queue : Queue) (result : Option (LinkedList.Returned × ListState)) :
    Outcome :=
  result.map fun (returned, msg_list) =>
    (some ⟨convert_linked_list_err_type returned.rv, returned.data_obj⟩, { queue with msg_list })

def msg_q_snd (msg_obj dealloc chosen : Option Nat) (queue : Queue) : Outcome :=
  match msg_obj with
  | none => some (some ⟨.invalidParameter, none⟩, queue)
  | some msg_obj =>
    if queue.unblocked then some (some ⟨.unavailableResource, none⟩, queue)
    else queue.converted (linked_list_add (some msg_obj) dealloc chosen queue.msg_list)

/-- Whether the loop around `pthread_cond_wait` goes on. -/
def Queue.waits (queue : Queue) : Bool :=
  linked_list_empty queue.msg_list && !queue.unblocked

def msg_q_rcv (msg_obj : Bool) (queue : Queue) : Outcome :=
  if !msg_obj then some (some ⟨.invalidParameter, none⟩, queue)
  else if queue.unblocked then some (some ⟨.unavailableResource, none⟩, queue)
  else if queue.waits then some (none, { queue with waiting := queue.waiting + 1 })
  else queue.converted (linked_list_remove true queue.msg_list)

/-- `msg_q_rcv` of a receiver that is woken up, by a signal or for no reason. -/
def woken (queue : Queue) : Outcome :=
  if queue.waiting = 0 || queue.waits then some (none, queue)
  else { queue with waiting := queue.waiting - 1 }.converted
    (linked_list_remove true queue.msg_list)

def msg_q_flush (queue : Queue) : Outcome := queue.converted (linked_list_flush queue.msg_list)

def msg_q_unblock (queue : Queue) : Outcome :=
  if queue.unblocked then some (some ⟨.unavailableResource, none⟩, queue)
  else some (some ⟨.success, none⟩, { queue with unblocked := true })

/-- The data of a list, the oldest first. -/
def messages (msg_list : ListState) : List Nat :=
  (msg_list.sequence.entries.map (·.data_ptr)).reverse

inductive Call where
  | snd (msg_obj dealloc chosen : Option Nat)
  | rcv (msg_obj : Bool)
  | wake
  | flush
  | unblock
  deriving DecidableEq

namespace Queue

def call (queue : Queue) : Call → Outcome
  | .snd msg_obj dealloc chosen => msg_q_snd msg_obj dealloc chosen queue
  | .rcv msg_obj => msg_q_rcv msg_obj queue
  | .wake => woken queue
  | .flush => msg_q_flush queue
  | .unblock => msg_q_unblock queue

def returned (queue : Queue) (made : Call) : Option Returned :=
  (queue.call made).bind Prod.fst

/-- The queue after a call, unchanged where the call has no end. -/
def step (queue : Queue) (made : Call) : Queue :=
  ((queue.call made).map Prod.snd).getD queue

/-! What goes through the queue -/

/-- The messages that wait in the queue, the oldest first. -/
def queued (queue : Queue) : List Nat := messages queue.msg_list

/-- The message that a step sends successfully. -/
def sentBy (taken : Queue × Call) : List Nat :=
  match taken.2 with
  | .snd (some msg_obj) _ _ =>
    if (taken.1.returned taken.2).map (·.rv) = some .success then [msg_obj] else []
  | _ => []

/-- The message that a step hands to a receiver. -/
def receivedBy (taken : Queue × Call) : List Nat :=
  match taken.2, taken.1.returned taken.2 with
  | .rcv _, some ⟨.success, some (some msg_obj)⟩ => [msg_obj]
  | .wake, some ⟨.success, some (some msg_obj)⟩ => [msg_obj]
  | _, _ => []

/-- The messages that a step throws away, the oldest first. -/
def flushedBy (taken : Queue × Call) : List Nat :=
  match taken.2 with
  | .flush => taken.1.queued
  | _ => []

/-- What leaves the queue by a step, `true` for what was received. -/
def leftBy (taken : Queue × Call) : List (Bool × Nat) :=
  (receivedBy taken).map (Prod.mk true) ++ (flushedBy taken).map (Prod.mk false)

end Queue
end Msm8917Common.MsgQ
