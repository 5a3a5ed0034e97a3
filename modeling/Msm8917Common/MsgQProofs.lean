import Msm8917Common.MsgQ
import Msm8917Common.LinkedListProofs

/-! `msg_q.c` as a FIFO queue: over any interleaving of its calls, the messages sent
are those that left it, one by one in the order of sending, and those still queued. -/
namespace Msm8917Common.MsgQ
open LinkedList (ListState Sound linked_list_init linked_list_add linked_list_remove
  linked_list_flush call_refines sound_step)
open Runs

variable {list : ListState} {queue : Queue}

/-! The list as a queue -/

theorem linked_list_add_queues (msg_obj : Nat) (dealloc chosen : Option Nat)
    (sound : Sound list) :
    ∃ returned after, linked_list_add (some msg_obj) dealloc chosen list = some (returned, after) ∧
      Sound after ∧
      (returned.rv = .success ∧ messages after = messages list ++ [msg_obj] ∨
        returned.rv = .failureGeneral ∧ messages after = messages list) := by
  obtain ⟨called, left⟩ := call_refines list (.add (some msg_obj) dealloc chosen) sound
  refine ⟨_, _, called, sound_step list _ sound, ?_⟩
  simp only [messages, left, LinkedList.Sequence.call]
  split
  · exact .inl ⟨rfl, by simp⟩
  · exact .inr ⟨rfl, rfl⟩

theorem linked_list_remove_takes_the_oldest (sound : Sound list) :
    ∃ returned after, linked_list_remove true list = some (returned, after) ∧ Sound after ∧
      ((∃ oldest, returned = ⟨.success, some (some oldest)⟩ ∧
          messages list = oldest :: messages after) ∨
        returned = ⟨.unavailableResource, none⟩ ∧ messages list = [] ∧ messages after = []) := by
  obtain ⟨called, left⟩ := call_refines list (.remove true) sound
  refine ⟨_, _, called, sound_step list _ sound, ?_⟩
  simp only [messages, left, LinkedList.Sequence.call]
  rcases list.sequence.entries.eq_nil_or_concat' with empty | ⟨newer, oldest, last⟩
  · exact .inr (by simp [empty])
  · exact .inl ⟨oldest.data_ptr, by simp [last]⟩

theorem linked_list_flush_empties (sound : Sound list) :
    ∃ returned after, linked_list_flush list = some (returned, after) ∧ Sound after ∧
      messages after = [] := by
  obtain ⟨called, left⟩ := call_refines list .flush sound
  refine ⟨_, _, called, sound_step list _ sound, ?_⟩
  simp only [messages, left, LinkedList.Sequence.call]
  rfl

theorem not_empty_of_messages (sound : Sound list) (held : messages list ≠ []) :
    LinkedList.linked_list_empty list = false := by
  obtain ⟨cells, holds⟩ := sound
  rw [messages, holds.entries] at held
  rw [LinkedList.linked_list_empty, holds.head]
  cases cells with
  | nil => exact absurd rfl held
  | cons cell cells => rfl

/-! One call -/

namespace Queue

/-- What a call does to the messages: none is lost, and none comes twice. -/
structure Accounts (queue : Queue) (made : Call) : Prop where
  ends : (queue.call made).isSome
  sound : Sound (queue.step made).msg_list
  ledger : queue.queued ++ sentBy (queue, made) =
    (leftBy (queue, made)).map Prod.snd ++ (queue.step made).queued

/-- A call that neither sends nor hands out anything and leaves the list alone. -/
theorem accounts_of_quiet {made : Call} {returned : Option Returned} {after : Queue}
    (sound : Sound queue.msg_list) (called : queue.call made = some (returned, after))
    (same : after.msg_list = queue.msg_list) (unsent : sentBy (queue, made) = [])
    (unleft : leftBy (queue, made) = []) : Accounts queue made := by
  have stepped : queue.step made = after := by rw [step, called]; rfl
  refine ⟨by rw [called]; rfl, ?_, ?_⟩
  · rwa [stepped, same]
  · rw [unsent, unleft, stepped, queued, queued, same]
    simp

/-- A receiver takes the oldest message if there is one. -/
theorem accounts_of_receive {made : Call} (waiting : Nat) (sound : Sound queue.msg_list)
    (receives : made = .rcv true ∨ made = .wake)
    (called : queue.call made =
      { queue with waiting }.converted (linked_list_remove true queue.msg_list)) :
    Accounts queue made := by
  obtain ⟨returned, after, removed, still, taken⟩ := linked_list_remove_takes_the_oldest sound
  rw [removed] at called
  have stepped : queue.step made = { queue with waiting, msg_list := after } := by
    rw [step, called]
    rfl
  have told : queue.returned made =
      some ⟨convert_linked_list_err_type returned.rv, returned.data_obj⟩ := by
    rw [Queue.returned, called]
    rfl
  refine ⟨by rw [called]; rfl, by rw [stepped]; exact still, ?_⟩
  rcases taken with ⟨oldest, rfl, split⟩ | ⟨rfl, empty, still_empty⟩
  · rcases receives with rfl | rfl <;>
      simp [sentBy, leftBy, receivedBy, flushedBy, told, stepped, queued, split,
        convert_linked_list_err_type]
  · rcases receives with rfl | rfl <;>
      simp [sentBy, leftBy, receivedBy, flushedBy, told, stepped, queued, empty, still_empty,
        convert_linked_list_err_type]

theorem accounts_of_snd (msg_obj dealloc chosen : Option Nat) (sound : Sound queue.msg_list) :
    Accounts queue (.snd msg_obj dealloc chosen) := by
  cases msg_obj with
  | none => exact accounts_of_quiet sound rfl rfl rfl rfl
  | some msg_obj =>
    cases unblocked : queue.unblocked with
    | true =>
      have called : queue.call (.snd (some msg_obj) dealloc chosen) =
          some (some ⟨.unavailableResource, none⟩, queue) := by
        simp [call, msg_q_snd, unblocked]
      exact accounts_of_quiet sound called rfl (by simp [sentBy, Queue.returned, called]) rfl
    | false =>
      obtain ⟨returned, after, added, still, outcome⟩ :=
        linked_list_add_queues msg_obj dealloc chosen sound
      have called : queue.call (.snd (some msg_obj) dealloc chosen) =
          some (some ⟨convert_linked_list_err_type returned.rv, returned.data_obj⟩,
            { queue with msg_list := after }) := by
        simp [call, msg_q_snd, unblocked, added, converted]
      have stepped : queue.step (.snd (some msg_obj) dealloc chosen) =
          { queue with msg_list := after } := by
        rw [step, called]
        rfl
      refine ⟨by rw [called]; rfl, by rw [stepped]; exact still, ?_⟩
      rcases outcome with ⟨success, longer⟩ | ⟨failure, same⟩
      · simp [sentBy, leftBy, receivedBy, flushedBy, Queue.returned, called, stepped, queued,
          success, longer, convert_linked_list_err_type]
      · simp [sentBy, leftBy, receivedBy, flushedBy, Queue.returned, called, stepped, queued,
          failure, same, convert_linked_list_err_type]

theorem accounts_of_flush (sound : Sound queue.msg_list) : Accounts queue .flush := by
  obtain ⟨returned, after, flushed, still, empty⟩ := linked_list_flush_empties sound
  have called : queue.call .flush =
      some (some ⟨convert_linked_list_err_type returned.rv, returned.data_obj⟩,
        { queue with msg_list := after }) := by
    simp [call, msg_q_flush, flushed, converted]
  have stepped : queue.step .flush = { queue with msg_list := after } := by
    rw [step, called]
    rfl
  refine ⟨by rw [called]; rfl, by rw [stepped]; exact still, ?_⟩
  simp [sentBy, leftBy, receivedBy, flushedBy, stepped, queued, empty, Function.comp_def]

theorem accounts_of_rcv (msg_obj : Bool) (sound : Sound queue.msg_list) :
    Accounts queue (.rcv msg_obj) := by
  cases msg_obj with
  | false => exact accounts_of_quiet sound rfl rfl rfl rfl
  | true =>
    cases unblocked : queue.unblocked with
    | true =>
      have called : queue.call (.rcv true) = some (some ⟨.unavailableResource, none⟩, queue) := by
        simp [call, msg_q_rcv, unblocked]
      exact accounts_of_quiet sound called rfl rfl
        (by simp [leftBy, receivedBy, flushedBy, Queue.returned, called])
    | false =>
      cases waits : queue.waits with
      | true =>
        have called : queue.call (.rcv true) =
            some (none, { queue with waiting := queue.waiting + 1 }) := by
          simp [call, msg_q_rcv, unblocked, waits]
        exact accounts_of_quiet sound called rfl rfl
          (by simp [leftBy, receivedBy, flushedBy, Queue.returned, called])
      | false =>
        have called : queue.call (.rcv true) =
            queue.converted (linked_list_remove true queue.msg_list) := by
          simp [call, msg_q_rcv, unblocked, waits]
        exact accounts_of_receive queue.waiting sound (.inl rfl) called

theorem accounts_of_wake (sound : Sound queue.msg_list) : Accounts queue .wake := by
  by_cases stays : queue.waiting = 0 || queue.waits
  · have called : queue.call .wake = some (none, queue) := if_pos stays
    exact accounts_of_quiet sound called rfl rfl
      (by simp [leftBy, receivedBy, flushedBy, Queue.returned, called])
  · exact accounts_of_receive (queue.waiting - 1) sound (.inr rfl) (if_neg stays)

theorem accounts (made : Call) (sound : Sound queue.msg_list) : Accounts queue made := by
  cases made with
  | snd msg_obj dealloc chosen => exact accounts_of_snd msg_obj dealloc chosen sound
  | rcv msg_obj => exact accounts_of_rcv msg_obj sound
  | wake => exact accounts_of_wake sound
  | flush => exact accounts_of_flush sound
  | unblock =>
    cases unblocked : queue.unblocked with
    | true => exact accounts_of_quiet sound (if_pos unblocked) rfl rfl rfl
    | false =>
      have called : queue.call .unblock =
          some (some ⟨.success, none⟩, { queue with unblocked := true }) := by
        simp [call, msg_q_unblock, unblocked]
      exact accounts_of_quiet sound called rfl rfl rfl

theorem sound_queue_step (queue : Queue) (made : Call) (sound : Sound queue.msg_list) :
    Sound (queue.step made).msg_list :=
  (accounts made sound).sound

/-! Runs -/

/-- Whatever is sent either leaves the queue, in the order of sending, or is still in it. -/
theorem ledger_of_run (calls : List Call) (sound : Sound queue.msg_list) :
    queue.queued ++ (steps step queue calls).flatMap sentBy =
      ((steps step queue calls).flatMap leftBy).map Prod.snd ++ (calls.foldl step queue).queued := by
  induction calls generalizing queue with
  | nil => simp [steps]
  | cons made rest ih =>
    obtain ⟨_, still, ledger⟩ := accounts made sound
    simp only [steps, List.flatMap_cons, List.foldl_cons, List.map_append]
    calc queue.queued ++ (sentBy (queue, made) ++ (steps step (queue.step made) rest).flatMap sentBy)
        = (leftBy (queue, made)).map Prod.snd ++ ((queue.step made).queued ++
            (steps step (queue.step made) rest).flatMap sentBy) := by
          rw [← List.append_assoc, ledger, List.append_assoc]
      _ = _ := by rw [ih still, List.append_assoc]

theorem received_of_left (taken : List (Queue × Call)) :
    ((taken.flatMap leftBy).filter Prod.fst).map Prod.snd = taken.flatMap receivedBy := by
  induction taken with
  | nil => rfl
  | cons first rest ih =>
    have here : ((leftBy first).filter Prod.fst).map Prod.snd = receivedBy first := by
      simp [leftBy, List.filter_map, Function.comp_def]
    rw [List.flatMap_cons, List.flatMap_cons, List.filter_append, List.map_append, ih, here]

/-- Without a flush, what leaves the queue is received. -/
theorem left_of_unflushed {calls : List Call} (kept : Call.flush ∉ calls) :
    ((steps step queue calls).flatMap leftBy).map Prod.snd =
      (steps step queue calls).flatMap receivedBy := by
  induction calls generalizing queue with
  | nil => rfl
  | cons made rest ih =>
    obtain ⟨notNow, later⟩ := not_or.mp (List.mem_cons.not.mp kept)
    have here : (leftBy (queue, made)).map Prod.snd = receivedBy (queue, made) := by
      cases made with
      | flush => exact absurd rfl notNow
      | _ => simp [leftBy, flushedBy, Function.comp_def]
    simp only [steps, List.flatMap_cons, List.map_append, ih later, here]

theorem unblocked_step {made : Call} (other : made ≠ .unblock) (sound : Sound queue.msg_list) :
    (queue.step made).unblocked = queue.unblocked := by
  have converted_keeps : ∀ (before : Queue) result after returned,
      before.converted result = some (returned, after) → after.unblocked = before.unblocked := by
    intro before result after returned made
    obtain ⟨_, _, same⟩ := Option.map_eq_some_iff.mp made
    cases same
    rfl
  obtain ⟨⟨returned, after⟩, called⟩ := Option.isSome_iff_exists.mp (accounts made sound).ends
  have stepped : queue.step made = after := by rw [step, called]; rfl
  rw [stepped]
  cases made with
  | snd msg_obj dealloc chosen =>
    simp only [call, msg_q_snd] at called
    split at called
    · cases called
      rfl
    · split at called
      · cases called
        rfl
      · exact converted_keeps _ _ _ _ called
  | rcv msg_obj =>
    simp only [call, msg_q_rcv] at called
    split at called
    · cases called
      rfl
    · split at called
      · cases called
        rfl
      · split at called
        · cases called
          rfl
        · exact converted_keeps _ _ _ _ called
  | wake =>
    simp only [call, woken] at called
    split at called
    · cases called
      rfl
    · exact converted_keeps { queue with waiting := queue.waiting - 1 } _ _ _ called
  | flush => exact converted_keeps _ _ _ _ called
  | unblock => exact absurd rfl other

theorem unblocked_of_run {calls : List Call} (sound : Sound queue.msg_list)
    (blocked : Call.unblock ∉ calls) :
    (calls.foldl step queue).unblocked = queue.unblocked := by
  induction calls generalizing queue with
  | nil => rfl
  | cons made rest ih =>
    obtain ⟨notNow, later⟩ := not_or.mp (List.mem_cons.not.mp blocked)
    rw [List.foldl_cons, ih (sound_queue_step queue made sound) later]
    exact unblocked_step (Ne.symm notNow) sound

theorem goes_on_with_messages {oldest : Nat} {rest : List Nat} (sound : Sound queue.msg_list)
    (held : queue.queued = oldest :: rest) : queue.waits = false := by
  have held_some : LinkedList.linked_list_empty queue.msg_list = false :=
    not_empty_of_messages sound (by rw [← queued, held]; exact List.cons_ne_nil _ _)
  rw [waits, held_some, Bool.false_and]

theorem receive_takes_the_oldest {made : Call} {oldest : Nat} {rest : List Nat} (waiting : Nat)
    (sound : Sound queue.msg_list) (receives : made = .rcv true ∨ made = .wake)
    (called : queue.call made =
      { queue with waiting }.converted (linked_list_remove true queue.msg_list))
    (held : queue.queued = oldest :: rest) :
    receivedBy (queue, made) = [oldest] ∧ (queue.step made).queued = rest := by
  obtain ⟨returned, after, removed, _, taken⟩ := linked_list_remove_takes_the_oldest sound
  rw [removed] at called
  have stepped : queue.step made = { queue with waiting, msg_list := after } := by
    rw [step, called]
    rfl
  have told : queue.returned made =
      some ⟨convert_linked_list_err_type returned.rv, returned.data_obj⟩ := by
    rw [Queue.returned, called]
    rfl
  rw [queued] at held
  rcases taken with ⟨first, rfl, split⟩ | ⟨_, empty, _⟩
  · obtain ⟨rfl, rfl⟩ := List.cons.inj (held.symm.trans split)
    refine ⟨?_, by rw [stepped, queued]⟩
    rcases receives with rfl | rfl <;>
      simp [receivedBy, told, convert_linked_list_err_type]
  · cases held.symm.trans empty

/-- A receiver that comes to a queue with messages gets the oldest at once. -/
theorem rcv_takes_the_oldest {oldest : Nat} {rest : List Nat} (sound : Sound queue.msg_list)
    (unblocked : queue.unblocked = false) (held : queue.queued = oldest :: rest) :
    receivedBy (queue, .rcv true) = [oldest] ∧ (queue.step (.rcv true)).queued = rest := by
  have goes_on := goes_on_with_messages sound held
  have called : queue.call (.rcv true) =
      queue.converted (linked_list_remove true queue.msg_list) := by
    simp [call, msg_q_rcv, unblocked, goes_on]
  exact receive_takes_the_oldest queue.waiting sound (.inl rfl) called held

/-- A receiver that waited gets the oldest once there is one. -/
theorem wake_takes_the_oldest {oldest : Nat} {rest : List Nat} (sound : Sound queue.msg_list)
    (waits : 0 < queue.waiting) (held : queue.queued = oldest :: rest) :
    receivedBy (queue, .wake) = [oldest] ∧ (queue.step .wake).queued = rest := by
  have goes_on := goes_on_with_messages sound held
  have called : queue.call .wake =
      { queue with waiting := queue.waiting - 1 }.converted
        (linked_list_remove true queue.msg_list) :=
    if_neg (by simp [goes_on, Nat.ne_of_gt waits])
  exact receive_takes_the_oldest (queue.waiting - 1) sound (.inr rfl) called held

/-- As many receivers as there are messages empty the queue. -/
theorem received_by_draining (sound : Sound queue.msg_list) (unblocked : queue.unblocked = false) :
    (steps step queue (List.replicate queue.queued.length (.rcv true))).flatMap receivedBy =
      queue.queued := by
  generalize held : queue.queued = messages
  induction messages generalizing queue with
  | nil => rfl
  | cons oldest rest ih =>
    obtain ⟨first, left⟩ := rcv_takes_the_oldest sound unblocked held
    have onward := ih (sound_queue_step queue (.rcv true) sound)
      ((unblocked_step (by decide) sound).trans unblocked) left
    rw [List.length_cons, List.replicate_succ, steps, List.flatMap_cons, first, onward]
    rfl

end Queue

open LinkedList in
/-- Over any sequence of calls, the list is well formed and does what the abstract
sequence does; and over any interleaving of the calls on a queue, every message sent
leaves it once, received or flushed, in the order of sending, or is still queued.
Where nothing was unblocked, receivers for those queued get the rest; and a receiver
that waited takes the oldest. -/
theorem messages_are_received_once_in_order (listCalls : List LinkedList.Call)
    (calls : List MsgQ.Call) :
    ((∀ list ∈ states ListState.step linked_list_init listCalls, WellFormed list) ∧
      ∀ taken ∈ steps ListState.step linked_list_init listCalls,
        taken.1.call taken.2 = some ((Sequence.call (taken.1.allocates taken.2)
          taken.1.sequence taken.2).1, taken.1.step taken.2) ∧
        (taken.1.step taken.2).sequence =
          (Sequence.call (taken.1.allocates taken.2) taken.1.sequence taken.2).2) ∧
    (∀ taken ∈ steps Queue.step msg_q_init calls, (taken.1.call taken.2).isSome) ∧
    (let taken := steps Queue.step msg_q_init calls
      let left := taken.flatMap Queue.leftBy
      let final := calls.foldl Queue.step msg_q_init
      taken.flatMap Queue.sentBy = left.map Prod.snd ++ final.queued ∧
      (left.filter Prod.fst).map Prod.snd = taken.flatMap Queue.receivedBy ∧
      (.unblock ∉ calls →
        let drained := (steps Queue.step final
          (List.replicate final.queued.length (.rcv true))).flatMap Queue.receivedBy
        left.map Prod.snd ++ drained = taken.flatMap Queue.sentBy ∧
        (.flush ∉ calls →
          taken.flatMap Queue.receivedBy ++ drained = taken.flatMap Queue.sentBy)) ∧
      (0 < final.waiting → ∀ oldest rest, final.queued = oldest :: rest →
        Queue.receivedBy (final, .wake) = [oldest] ∧ (final.step .wake).queued = rest)) := by
  have start : Sound msg_q_init.msg_list := ⟨[], holds_init⟩
  have ledger := Queue.ledger_of_run calls start
  rw [show msg_q_init.queued = [] from rfl, List.nil_append] at ledger
  have sound := invariant_states Queue.sound_queue_step calls start _ (end_mem_states _ _)
  refine ⟨the_list_refines_the_sequence listCalls, ?_, ledger, Queue.received_of_left _, ?_, ?_⟩
  · exact events_of_invariant Queue.sound_queue_step
      (fun queue made sound => (Queue.accounts made sound).ends) calls start
  · intro blocked drained
    have emptied : drained = (calls.foldl Queue.step msg_q_init).queued :=
      Queue.received_by_draining sound (Queue.unblocked_of_run start blocked)
    refine ⟨by rw [emptied, ledger], fun kept => ?_⟩
    rw [emptied, ledger, Queue.left_of_unflushed kept]
  · intro waits oldest rest held
    exact Queue.wake_takes_the_oldest sound waits held

end Msm8917Common.MsgQ
