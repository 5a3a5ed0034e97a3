import Mathlib.Data.List.Nodup
import Msm8917Common.RilSapQueue
import Msm8917Common.Runs

/-! Which entry a completion takes out of the queue. The walk stops at the first
entry with the id and the token of the completed message, so it is the entry of the
request exactly when no newer one has the same two. -/
namespace Msm8917Common.Ril.Sap.QueueProofs
open Runs FirstMatch SapSocket

def SapEffect.freed : SapEffect → Option Nat
  | .freeRequest request => some request
  | _ => none

/-- The requests that were given back, in order. -/
def freedRequests (socket : SapSocket) : List Nat := socket.effects.filterMap SapEffect.freed

/-- The queue is what waits for a completion, none of it freed, and nothing is
freed twice. -/
structure InOrder (socket : SapSocket) : Prop where
  queue : socket.pendingResponseQueue = socket.outstanding
  alive : ∀ request ∈ socket.outstanding, request.address ∉ freedRequests socket
  once : (freedRequests socket).Nodup

/-- A completion takes its own entry and frees it; anything else leaves the entries
and frees none. -/
def TakesOwnEntry (uimFuncs : Bool) (socket : SapSocket) (event : SapEvent) : Prop :=
  let next := socket.step uimFuncs event
  match event with
  | .complete (some t) _ _ _ =>
    next.pendingResponseQueue = socket.pendingResponseQueue.filter (·.address ≠ t) ∧
      freedRequests next = freedRequests socket ++ [t]
  | _ => socket.pendingResponseQueue <:+ next.pendingResponseQueue ∧
      freedRequests next = freedRequests socket

/-- The UIM functions complete what is outstanding. -/
def CompletesOutstanding (socket : SapSocket) : SapEvent → Prop
  | .complete (some t) _ _ _ => t ∈ socket.outstanding.map (·.address)
  | _ => True

/-- No request that was dispatched later and is outstanding too has the id and the
token of the one that is completed. -/
def NewestOfItsName (socket : SapSocket) : SapEvent → Prop
  | .complete (some t) _ _ _ => ∀ request ∈ socket.outstanding, request.address = t →
      ∀ newer ∈ socket.outstanding.takeWhile (·.address ≠ t),
        ¬ (newer.curr.id = request.curr.id ∧ newer.curr.token = request.curr.token)
  | _ => True

structure Issued (socket : SapSocket) : Prop where
  fresh : ∀ request ∈ socket.issued, request.address < socket.nextAddress
  distinct : (socket.issued.map (·.address)).Nodup
  outstanding : socket.outstanding.Sublist socket.issued
  queued : ∀ request ∈ socket.pendingResponseQueue, request ∈ socket.issued
  copied : ∀ request ∈ socket.issued, request.token = request.curr.token
  freed : ∀ address ∈ freedRequests socket, address < socket.nextAddress

/-- The first match in a list, when nothing before a member matches. -/
theorem find?_of_takeWhile {α : Type} (own : α → Bool) {found : α → Bool} {list : List α} {element : α}
    (member : element ∈ list) (isOwn : own element = true) (matches' : found element = true)
    (only : ∀ other ∈ list, own other = true → other = element)
    (passed : ∀ newer ∈ list.takeWhile (!own ·), found newer = false) :
    list.find? found = some element := by
  induction list with
  | nil => exact absurd member List.not_mem_nil
  | cons head rest ih =>
    by_cases here : own head = true
    · have same := only head List.mem_cons_self here
      rw [same]
      exact List.find?_cons_of_pos matches'
    · have kept : (head :: rest).takeWhile (!own ·) = head :: rest.takeWhile (!own ·) := by
        simp [here]
      rw [kept, List.forall_mem_cons] at passed
      rw [List.find?_cons_of_neg (by simp [passed.1])]
      have later : element ∈ rest := by
        rcases List.mem_cons.mp member with rfl | later
        · exact absurd isOwn here
        · exact later
      exact ih later (fun other inRest => only other (List.mem_cons_of_mem _ inRest)) passed.2

/-- Taking out the first match of a list whose keys are distinct leaves the elements
with other keys. -/
theorem eraseP_eq_filter {found : SapSocketRequest → Bool} {list : List SapSocketRequest}
    {request : SapSocketRequest} (distinct : (list.map (·.address)).Nodup)
    (first : list.find? found = some request) :
    list.eraseP found = list.filter (·.address ≠ request.address) := by
  induction list with
  | nil => simp at first
  | cons head rest ih =>
    obtain ⟨notLater, laterDistinct⟩ := List.nodup_cons.mp distinct
    cases isFound : found head with
    | true =>
      rw [List.find?_cons_of_pos isFound] at first
      cases first
      rw [List.eraseP_cons_of_pos isFound, List.filter_cons_of_neg (by simp)]
      symm
      apply List.filter_eq_self.mpr
      intro other member
      have differs : other.address ≠ request.address := by
        intro same
        have later := List.mem_map_of_mem (f := (·.address)) member
        rw [same] at later
        exact notLater later
      simpa using differs
    | false =>
      rw [List.find?_cons_of_neg (by simp [isFound])] at first
      have later := List.mem_map_of_mem (f := (·.address)) (List.mem_of_find?_eq_some first)
      have differs : head.address ≠ request.address := by
        intro same
        rw [← same] at later
        exact notLater later
      rw [List.eraseP_cons_of_neg (by simp [isFound]),
        List.filter_cons_of_pos (by simpa using differs),
        ih laterDistinct first]

@[simp] theorem enqueue_eq (request : SapSocketRequest) (queue : List SapSocketRequest) :
    enqueue request queue = request :: queue := by
  cases queue <;> rfl

/-- The block at the address of an outstanding request is that request. -/
theorem find_outstanding {socket : SapSocket} (issued : Issued socket)
    {request : SapSocketRequest} (member : request ∈ socket.outstanding) :
    socket.issued.find? (·.address = request.address) = some request := by
  have inIssued := issued.outstanding.subset member
  cases found : socket.issued.find? (·.address = request.address) with
  | none => simpa using List.find?_eq_none.mp found request inIssued
  | some other =>
    have same : other.address = request.address := by simpa using List.find?_some found
    rw [List.inj_on_of_nodup_map issued.distinct (List.mem_of_find?_eq_some found) inIssued same]

/-- What a completion does, by the walk along the queue. -/
theorem complete_effect {socket : SapSocket} {t : Nat} {request : SapSocketRequest}
    (found : socket.issued.find? (·.address = t) = some request) (e : Int)
    (response : List UInt8) (allocated : Bool) :
    let matching := sameMessage request.curr.id request.curr.token
    let next := socket.onRequestComplete t e response allocated
    next.pendingResponseQueue = socket.pendingResponseQueue.eraseP matching ∧
      freedRequests next = freedRequests socket ++
        (socket.pendingResponseQueue.find? matching).toList.map (·.address) ∧
      next.outstanding = socket.outstanding.filter (·.address ≠ t) ∧
      next.issued = socket.issued ∧ next.nextAddress = socket.nextAddress := by
  simp only [onRequestComplete, found, checkAndDequeue]
  refine ⟨onFirst_unlink _, ?_, trivial, trivial, trivial⟩
  rw [onFirst_stop]
  cases socket.pendingResponseQueue.find? (sameMessage request.curr.id request.curr.token) <;>
    cases allocated <;> simp [freedRequests, SapEffect.freed, List.filterMap_cons]

theorem dispatch_effect (uimFuncs : Bool) (req : MsgHeader) (socket : SapSocket) :
    freedRequests (socket.dispatchRequest uimFuncs true req) = freedRequests socket := by
  cases uimFuncs <;> simp [dispatchRequest, freedRequests, SapEffect.freed]

theorem refused_dispatch_effect (uimFuncs : Bool) (req : MsgHeader) (socket : SapSocket) :
    freedRequests (socket.dispatchRequest uimFuncs false req) = freedRequests socket := by
  simp [dispatchRequest, freedRequests, SapEffect.freed]

theorem dispatch_keeps_issued {socket : SapSocket} (issued : Issued socket) (uimFuncs : Bool)
    (req : MsgHeader) : Issued (socket.dispatchRequest uimFuncs true req) := by
  have freed := dispatch_effect uimFuncs req socket
  constructor
  case fresh =>
    rintro request (_ | ⟨_, member⟩)
    · exact Nat.lt_succ_self _
    · exact Nat.lt_succ_of_lt (issued.fresh request member)
  case distinct =>
    apply List.nodup_cons.mpr ⟨?_, issued.distinct⟩
    intro member
    obtain ⟨request, inIssued, same⟩ := List.mem_map.mp member
    have older := issued.fresh request inIssued
    simp only at same
    omega
  case outstanding => exact issued.outstanding.cons_cons _
  case queued =>
    intro request member
    simp only [dispatchRequest, if_true, enqueue_eq] at member
    rcases List.mem_cons.mp member with rfl | older
    · exact List.mem_cons_self
    · exact List.mem_cons_of_mem _ (issued.queued request older)
  case copied =>
    rintro request (_ | ⟨_, member⟩)
    · rfl
    · exact issued.copied request member
  case freed =>
    intro address member
    rw [freed] at member
    exact Nat.lt_succ_of_lt (issued.freed address member)

theorem complete_keeps_issued {socket : SapSocket} (issued : Issued socket) (t : Nat) (e : Int)
    (response : List UInt8) (allocated : Bool) :
    Issued (socket.onRequestComplete t e response allocated) := by
  cases found : socket.issued.find? (·.address = t) with
  | none =>
    simp only [onRequestComplete, found]
    exact issued
  | some request =>
    obtain ⟨queue, freed, outstanding, allIssued, nextAddress⟩ :=
      complete_effect found e response allocated
    constructor
    case fresh =>
      rw [allIssued, nextAddress]
      exact issued.fresh
    case distinct =>
      rw [allIssued]
      exact issued.distinct
    case outstanding =>
      rw [allIssued, outstanding]
      exact List.filter_sublist.trans issued.outstanding
    case queued =>
      intro other member
      rw [queue] at member
      rw [allIssued]
      exact issued.queued other (List.mem_of_mem_eraseP member)
    case copied =>
      rw [allIssued]
      exact issued.copied
    case freed =>
      intro address member
      rw [freed] at member
      rw [nextAddress]
      rcases List.mem_append.mp member with older | new
      · exact issued.freed address older
      · obtain ⟨entry, isFirst, rfl⟩ := List.mem_map.mp new
        have inQueue := List.mem_of_find?_eq_some (Option.mem_toList.mp isFirst)
        exact issued.fresh entry (issued.queued entry inQueue)

theorem step_keeps_issued (uimFuncs : Bool) (socket : SapSocket) (event : SapEvent)
    (issued : Issued socket) : Issued (socket.step uimFuncs event) := by
  cases event with
  | dispatch req allocated =>
    cases allocated with
    | true => exact dispatch_keeps_issued issued uimFuncs req
    | false =>
      have freed := refused_dispatch_effect uimFuncs req socket
      exact ⟨issued.fresh, issued.distinct, issued.outstanding, issued.queued, issued.copied,
        fun address member => issued.freed address (freed ▸ member)⟩
  | complete t e response allocated =>
    cases t with
    | none => exact issued
    | some t => exact complete_keeps_issued issued t e response allocated

theorem dispatch_in_order {socket : SapSocket} (issued : Issued socket) (inOrder : InOrder socket)
    (uimFuncs : Bool) (req : MsgHeader) (allocated : Bool) :
    InOrder (socket.step uimFuncs (.dispatch req allocated)) ∧
      TakesOwnEntry uimFuncs socket (.dispatch req allocated) := by
  cases allocated with
  | false =>
    have freed := refused_dispatch_effect uimFuncs req socket
    refine ⟨⟨inOrder.queue, ?_, ?_⟩, List.suffix_refl _, freed⟩
    · rw [step, freed]
      exact inOrder.alive
    · rw [step, freed]
      exact inOrder.once
  | true =>
    have freed := dispatch_effect uimFuncs req socket
    refine ⟨⟨?_, ?_, ?_⟩, ?_, freed⟩
    · simp [step, dispatchRequest, inOrder.queue]
    · rw [step, freed]
      rintro request (_ | ⟨_, member⟩)
      · intro gone
        exact absurd (issued.freed _ gone) (Nat.lt_irrefl _)
      · exact inOrder.alive request member
    · rw [step, freed]
      exact inOrder.once
    · simp [step, dispatchRequest]

/-- The walk finds the entry of the request exactly when it is the newest of its
name. -/
theorem first_is_own_iff {socket : SapSocket} (issued : Issued socket) {request : SapSocketRequest}
    (member : request ∈ socket.outstanding) :
    socket.outstanding.find? (sameMessage request.curr.id request.curr.token) = some request ↔
      ∀ newer ∈ socket.outstanding.takeWhile (·.address ≠ request.address),
        ¬ (newer.curr.id = request.curr.id ∧ newer.curr.token = request.curr.token) := by
  have distinct := issued.distinct.sublist (issued.outstanding.map (·.address))
  have named : ∀ other ∈ socket.outstanding,
      (sameMessage request.curr.id request.curr.token other = true ↔
        other.curr.id = request.curr.id ∧ other.curr.token = request.curr.token) := by
    intro other inList
    have copied := issued.copied other (issued.outstanding.subset inList)
    simp only [sameMessage, Bool.and_eq_true, decide_eq_true_eq, copied]
    exact ⟨fun ⟨token, id⟩ => ⟨id.symm, token.symm⟩, fun ⟨id, token⟩ => ⟨token.symm, id.symm⟩⟩
  constructor
  · intro first newer inFront same
    -- An entry in front of the first match does not match.
    obtain ⟨before, rest, split, passed⟩ := List.find?_eq_some_iff_append.mp first |>.2
    have isFront : socket.outstanding.takeWhile (·.address ≠ request.address) = before := by
      have absent : ∀ other ∈ before, other.address ≠ request.address := by
        rw [split, List.map_append, List.nodup_append] at distinct
        intro other inBefore
        exact distinct.2.2 _ (List.mem_map_of_mem inBefore) _
          (List.mem_map_of_mem List.mem_cons_self)
      rw [split, List.takeWhile_append_of_pos (by simpa using absent)]
      simp
    rw [isFront] at inFront
    have inList : newer ∈ socket.outstanding := by
      rw [split]
      exact List.mem_append_left _ inFront
    have matching := (named newer inList).mpr same
    exact absurd matching (by simpa using passed newer inFront)
  · intro newest
    apply find?_of_takeWhile (·.address = request.address) member
    · simp
    · exact (named request member).mpr ⟨rfl, rfl⟩
    · intro other inList same
      exact List.inj_on_of_nodup_map distinct inList member (by simpa using same)
    · intro newer inFront
      have passed := newest newer (by simpa using inFront)
      have inList := List.takeWhile_subset _ inFront
      by_contra matching
      exact passed ((named newer inList).mp (by simpa using matching))

/-- A completion of an outstanding request is in order exactly when the request is
the newest of its name. -/
theorem complete_in_order_iff {socket : SapSocket} (issued : Issued socket)
    (inOrder : InOrder socket) (uimFuncs : Bool) {request : SapSocketRequest}
    (member : request ∈ socket.outstanding) (e : Int) (response : List UInt8) (allocated : Bool) :
    InOrder (socket.step uimFuncs (.complete (some request.address) e response allocated)) ∧
        TakesOwnEntry uimFuncs socket (.complete (some request.address) e response allocated) ↔
      NewestOfItsName socket (.complete (some request.address) e response allocated) := by
  have distinct := issued.distinct.sublist (issued.outstanding.map (·.address))
  have unique : ∀ other ∈ socket.outstanding, other.address = request.address → other = request :=
    fun other inList same => List.inj_on_of_nodup_map distinct inList member same
  obtain ⟨queue, freed, outstanding, -, -⟩ :=
    complete_effect (find_outstanding issued member) e response allocated
  rw [inOrder.queue] at queue freed
  have newest_iff : NewestOfItsName socket (.complete (some request.address) e response allocated) ↔
      socket.outstanding.find? (sameMessage request.curr.id request.curr.token) =
        some request := by
    rw [first_is_own_iff issued member]
    constructor
    · intro newest
      exact newest request member rfl
    · intro newest other inList same
      rw [unique other inList same]
      exact newest
  rw [newest_iff]
  simp only [TakesOwnEntry, step]
  constructor
  · rintro ⟨-, -, freedOwn⟩
    rw [freed] at freedOwn
    have one := List.append_cancel_left freedOwn
    cases first : socket.outstanding.find? (sameMessage request.curr.id request.curr.token) with
    | none => simp [first] at one
    | some other =>
      have same : other.address = request.address := by simpa [first] using one
      rw [unique other (List.mem_of_find?_eq_some first) same]
  · intro first
    rw [first] at freed
    rw [eraseP_eq_filter distinct first] at queue
    have freedOwn : freedRequests (socket.onRequestComplete request.address e response allocated) =
        freedRequests socket ++ [request.address] := freed
    have notFreed := inOrder.alive request member
    refine ⟨⟨queue.trans outstanding.symm, ?_, ?_⟩, by rw [queue, inOrder.queue], freedOwn⟩
    · intro other inNext
      rw [outstanding] at inNext
      obtain ⟨inList, differs⟩ := List.mem_filter.mp inNext
      rw [freedOwn, List.mem_append, not_or]
      exact ⟨inOrder.alive other inList, by simpa using differs⟩
    · rw [freedOwn, List.nodup_append]
      refine ⟨inOrder.once, List.nodup_singleton _, ?_⟩
      intro address inFreed own isOwn same
      rw [List.mem_singleton] at isOwn
      rw [same, isOwn] at inFreed
      exact notFreed inFreed

theorem step_in_order_iff (uimFuncs : Bool) (socket : SapSocket) (event : SapEvent)
    (issued : Issued socket) (inOrder : InOrder socket)
    (completes : CompletesOutstanding socket event) :
    InOrder (socket.step uimFuncs event) ∧ TakesOwnEntry uimFuncs socket event ↔
      NewestOfItsName socket event := by
  cases event with
  | dispatch req allocated =>
    exact iff_of_true (dispatch_in_order issued inOrder uimFuncs req allocated) trivial
  | complete t e response allocated =>
    cases t with
    | none => exact iff_of_true ⟨inOrder, List.suffix_refl _, rfl⟩ trivial
    | some t =>
      obtain ⟨request, member, rfl⟩ := List.mem_map.mp completes
      exact complete_in_order_iff issued inOrder uimFuncs member e response allocated

theorem start_issued : Issued SapSocket.start := by
  constructor <;> simp [SapSocket.start, freedRequests]

theorem start_in_order : InOrder SapSocket.start := by
  constructor <;> simp [SapSocket.start, freedRequests]

/-- While the UIM functions complete what is outstanding, every completion takes
its own entry exactly when each comes for the newest request of its name. -/
theorem own_entries_iff_newest_first (uimFuncs : Bool) (events : List SapEvent)
    (completes : ∀ taken ∈ steps (SapSocket.step uimFuncs) SapSocket.start events,
      CompletesOutstanding taken.1 taken.2) :
    ((∀ socket ∈ states (SapSocket.step uimFuncs) SapSocket.start events, InOrder socket) ∧
        ∀ taken ∈ steps (SapSocket.step uimFuncs) SapSocket.start events,
          TakesOwnEntry uimFuncs taken.1 taken.2) ↔
      ∀ taken ∈ steps (SapSocket.step uimFuncs) SapSocket.start events,
        NewestOfItsName taken.1 taken.2 :=
  always_with_events_iff_each_step_under
    (fun socket event issued _ => step_keeps_issued uimFuncs socket event issued)
    (step_in_order_iff uimFuncs) events start_issued start_in_order completes

/-- Two requests with the id 1, with the tokens 5 and 6, completed in order. -/
theorem different_tokens_take_their_entries :
    ((∀ socket ∈ states (SapSocket.step true) SapSocket.start
          [.dispatch ⟨5, .request, 1, 0, []⟩ true, .dispatch ⟨6, .request, 1, 0, []⟩ true,
            .complete (some 1) 0 [] true, .complete (some 2) 0 [] true], InOrder socket) ∧
        ∀ taken ∈ steps (SapSocket.step true) SapSocket.start
          [.dispatch ⟨5, .request, 1, 0, []⟩ true, .dispatch ⟨6, .request, 1, 0, []⟩ true,
            .complete (some 1) 0 [] true, .complete (some 2) 0 [] true],
          TakesOwnEntry true taken.1 taken.2) :=
  (own_entries_iff_newest_first true _ (by
    simp [steps, CompletesOutstanding, SapSocket.start, step, dispatchRequest,
      onRequestComplete])).mpr (by
    simp [steps, NewestOfItsName, SapSocket.start, step, dispatchRequest, onRequestComplete])

/-- Completing the older of two requests with one id and one token frees the newer. -/
theorem equal_tokens_free_the_newer_entry :
    ¬ ∀ (uimFuncs : Bool) (events : List SapEvent),
      (∀ taken ∈ steps (SapSocket.step uimFuncs) SapSocket.start events,
        CompletesOutstanding taken.1 taken.2) →
      (∀ socket ∈ states (SapSocket.step uimFuncs) SapSocket.start events, InOrder socket) ∧
        ∀ taken ∈ steps (SapSocket.step uimFuncs) SapSocket.start events,
          TakesOwnEntry uimFuncs taken.1 taken.2 := by
  intro always
  have run := always true [.dispatch ⟨5, .request, 1, 0, []⟩ true,
    .dispatch ⟨5, .request, 1, 0, []⟩ true, .complete (some 1) 0 [] true]
    (by simp [steps, CompletesOutstanding, SapSocket.start, step, dispatchRequest])
  let dispatched : List SapEvent :=
    [.dispatch ⟨5, .request, 1, 0, []⟩ true, .dispatch ⟨5, .request, 1, 0, []⟩ true]
  have completed := run.2 _
    (last_mem_steps SapSocket.start dispatched (.complete (some 1) 0 [] true))
  exact absurd completed.2 (by decide)

end Msm8917Common.Ril.Sap.QueueProofs
