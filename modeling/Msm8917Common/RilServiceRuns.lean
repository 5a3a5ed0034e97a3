import Msm8917Common.RilServiceProofs

/-! Runs of the radio service with a vendor library that completes only what it was
handed. Every request that is added is either handed on once or answered with an error
once. The answers to a request, from either side, are at most one; what the service
answers itself stays in the pending list, since nobody will ever complete it. -/
namespace Msm8917Common.RilService
open Allocations Ril Ril.RequestsProofs Runs

/-- The calls of `onRequest` for the request at an address. -/
def handedOn (address : Nat) (state : RadioState) : List OnRequest :=
  state.onRequests.filter (·.t = address)

/-- The error responses of the service to the request at an address. -/
def errorsFor (address : Nat) (state : RadioState) : List RadioCall :=
  state.errorResponses.filter (answers address)

/-- The vendor library adds no request, and completes only what it has been handed. -/
def MayDo (handed : Nat → Prop) : RilEvent → Prop
  | .addRequestToList _ _ _ _ => False
  | .complete (some t) _ _ _ _ => handed t
  | _ => True

def Handed (state : RadioState) (address : Nat) : Prop := handedOn address state ≠ []

/-- The request is in the table, and the vendor library keeps to what it was handed. -/
def Contract (build : RilBuild) (state : RadioState) : RadioEvent → Prop
  | .vendor event => MayDo (Handed state) event
  | .request call _ _ _ during =>
    (∃ function, commandInfo build (call.dispatch build.version).request =
      some ⟨(call.dispatch build.version).request, some function⟩) ∧
    ∀ event ∈ during, MayDo (fun t => Handed state t ∨ t = state.ril.nextAddress) event

section vendor

variable {build : RilBuild} {handed : Nat → Prop} {address : Nat}

/-- What nobody was handed stays in its list. -/
theorem step_keeps_listed {event : RilEvent} (may : MayDo handed event)
    (notHanded : ¬ handed address) {state : RilState} (listed : Listed state address) :
    Listed (state.step build event) address := by
  unfold RilState.step
  split
  · exact listed
  cases event with
  | addRequestToList => exact may.elim
  | ack t garbage =>
    obtain ⟨hook, tag, member, isAt⟩ := listed_iff.mp listed
    exact listed_iff.mpr ⟨hook, tag, by rwa [ack_step_tags], isAt⟩
  | wake event => exact listed
  | complete t garbage e response timeoutAllocated =>
    have pending := (complete_effect build t garbage e response timeoutAllocated state).1
    obtain ⟨hook, member⟩ := listed
    refine ⟨hook, ?_⟩
    simp only [addresses, pending]
    cases t with
    | none => exact member
    | some t =>
      have different : address ≠ t := by
        rintro rfl
        exact notHanded may
      have others : (((state.checkAndDequeueRequestInfoIfAck build (some t) garbage false).1.pending
          hook).filter (·.address ≠ t)) = (state.pending hook).filter (·.address ≠ t) :=
        dequeue_others hook
      obtain ⟨pRI, inList, rfl⟩ := List.mem_map.mp member
      have kept : pRI ∈ (state.pending hook).filter (·.address ≠ t) :=
        List.mem_filter.mpr ⟨inList, by simpa using different⟩
      rw [← others] at kept
      exact List.mem_map.mpr ⟨pRI, (List.mem_filter.mp kept).1, rfl⟩

theorem step_nextAddress (build : RilBuild) {event : RilEvent} (may : MayDo handed event)
    (state : RilState) :
    (state.step build event).nextAddress = state.nextAddress := by
  unfold RilState.step
  split
  · rfl
  cases event with
  | addRequestToList => exact may.elim
  | ack t garbage => exact (ack_effect build t garbage state).2.1
  | wake event => rfl
  | complete t garbage e response timeoutAllocated =>
    exact (complete_effect build t garbage e response timeoutAllocated state).2.1

/-- What a run of vendor events leaves: the links, the addresses, and what nobody was
handed. -/
theorem events_keep {events : List RilEvent} (may : ∀ event ∈ events, MayDo handed event)
    {state : RilState} (linked : WellLinked build state) :
    let next := events.foldl (RilState.step build) state
    WellLinked build next ∧ next.nextAddress = state.nextAddress ∧
      ∀ address, ¬ handed address → Listed state address → Listed next address := by
  induction events generalizing state with
  | nil => exact ⟨linked, rfl, fun _ _ => id⟩
  | cons event rest ih =>
    obtain ⟨now, later⟩ := List.forall_mem_cons.mp may
    obtain ⟨nextLinked, nextAddress, listed⟩ := ih later (step_keeps_linked build state event linked)
    refine ⟨nextLinked, nextAddress.trans (step_nextAddress build now state), ?_⟩
    exact fun address notHanded isListed =>
      listed address notHanded (step_keeps_listed now notHanded isListed)

end vendor

/-- What holds in every state of a run. -/
structure Settling (build : RilBuild) (state : RadioState) : Prop where
  linked : WellLinked build state.ril
  clean : state.memory.heap = fun _ => none
  defined : state.undefined = false
  once : ∀ address, (handedOn address state).length + (errorsFor address state).length =
    if 0 < address ∧ address < state.ril.nextAddress then 1 else 0
  positive : 0 < state.ril.nextAddress
  waiting : ∀ address, errorsFor address state ≠ [] → Listed state.ril address

theorem start_settling (build : RilBuild) : Settling build RadioState.start := by
  refine ⟨start_linked build, rfl, rfl, ?_, Nat.one_pos, ?_⟩
  · intro address
    have none : ¬ (0 < address ∧ address < 1) := by omega
    exact (if_neg none).symm
  · intro address answered
    exact absurd rfl answered

/-- What was answered by the service was not handed on. -/
theorem not_handed_of_error {build : RilBuild} {state : RadioState}
    (settling : Settling build state) {address : Nat} (error : errorsFor address state ≠ []) :
    ¬ Handed state address ∧ address < state.ril.nextAddress := by
  have once := settling.once address
  have positive := List.length_pos_iff.mpr error
  split at once
  · rename_i inside
    refine ⟨fun handed => ?_, inside.2⟩
    have more := List.length_pos_iff.mpr handed
    omega
  · omega

theorem vendor_keeps_settling {build : RilBuild} {state : RadioState}
    (settling : Settling build state) {event : RilEvent} (may : MayDo (Handed state) event) :
    Settling build { state with ril := state.ril.step build event } := by
  have nextAddress := step_nextAddress build may state.ril
  refine ⟨step_keeps_linked build _ event settling.linked, settling.clean, settling.defined,
    ?_, ?_, ?_⟩
  · intro address
    simp only [nextAddress]
    exact settling.once address
  · simp only [nextAddress]
    exact settling.positive
  · intro address error
    exact step_keeps_listed may (not_handed_of_error settling error).1 (settling.waiting address error)

theorem add_listed (build : RilBuild) (state : RilState) (serial slotId : Int) (request : Nat) :
    Listed (state.addRequestToList build serial slotId request true) state.nextAddress ∧
    ∀ address, Listed state address →
      Listed (state.addRequestToList build serial slotId request true) address := by
  constructor
  · refine listed_iff.mpr ⟨addHook build.simCount slotId, (state.nextAddress, slotId), ?_, rfl⟩
    rw [add_tags, if_pos rfl]
    exact List.mem_cons_self
  · intro address listed
    obtain ⟨hook, tag, member, isAt⟩ := listed_iff.mp listed
    refine listed_iff.mpr ⟨hook, tag, ?_, isAt⟩
    rw [add_tags]
    split
    · exact List.mem_cons_of_mem _ member
    · exact member

theorem add_nextAddress (build : RilBuild) (state : RilState) (serial slotId : Int)
    (request : Nat) :
    (state.addRequestToList build serial slotId request true).nextAddress =
      state.nextAddress + 1 := rfl

theorem filter_append_length {α : Type} (list : List α) (last : α) (keeps : α → Bool) :
    ((list ++ [last]).filter keeps).length =
      (list.filter keeps).length + if keeps last then 1 else 0 := by
  cases kept : keeps last <;> simp [kept]

/-- One more address is settled: the new one. -/
theorem once_of_new {nextAddress address count : Nat} (positive : 0 < nextAddress)
    (once : count = if 0 < address ∧ address < nextAddress then 1 else 0) :
    (count + if nextAddress = address then 1 else 0) =
      if 0 < address ∧ address < nextAddress + 1 then 1 else 0 := by
  by_cases isNew : nextAddress = address
  · subst isNew
    simp [once, positive]
  · have same : address < nextAddress + 1 ↔ address < nextAddress := by omega
    simp [once, isNew, same]

theorem request_keeps_settling {build : RilBuild} {chosen : Nat → Option Nat} {state : RadioState}
    (settling : Settling build state) {call : RadioRequest} {function : Nat}
    (answerable : commandInfo build (call.dispatch build.version).request =
      some ⟨(call.dispatch build.version).request, some function⟩)
    {during : List RilEvent}
    (may : ∀ event ∈ during, MayDo (fun t => Handed state t ∨ t = state.ril.nextAddress) event)
    (serial slotId : Int) :
    Settling build (state.dispatch build chosen (call.dispatch build.version) serial slotId true
      during) := by
  obtain ⟨restored, defined, settled⟩ := dispatch_settles build chosen call serial
    slotId during state function answerable
  have addLinked := add_keeps_linked settling.linked serial slotId (call.dispatch build.version).request
  obtain ⟨newListed, oldListed⟩ := add_listed build state.ril serial slotId
    (call.dispatch build.version).request
  rcases settled with ⟨-, -, ril, errors, calls⟩ | ⟨err, -, ril, calls, errors⟩
  · obtain ⟨linked, nextAddress, listed⟩ := events_keep may addLinked
    refine ⟨ril ▸ linked, restored.trans settling.clean, defined.trans settling.defined, ?_, ?_, ?_⟩
    · intro address
      rw [ril, nextAddress, add_nextAddress, handedOn, calls, filter_append_length, errorsFor,
        errors]
      have new := once_of_new settling.positive (settling.once address)
      simpa [handedOn, errorsFor, Nat.add_right_comm] using new
    · rw [ril, nextAddress]
      exact Nat.succ_pos _
    · intro address error
      rw [errorsFor, errors] at error
      obtain ⟨notHanded, older⟩ := not_handed_of_error settling error
      rw [ril]
      refine listed address ?_ (oldListed address (settling.waiting address error))
      rintro (handed | rfl)
      · exact notHanded handed
      · exact Nat.lt_irrefl _ older
  · refine ⟨ril ▸ addLinked, restored.trans settling.clean, defined.trans settling.defined, ?_, ?_, ?_⟩
    · intro address
      rw [ril, add_nextAddress, handedOn, calls, errorsFor, errors, filter_append_length]
      have new := once_of_new settling.positive (settling.once address)
      simpa [handedOn, errorsFor, answers, Nat.add_assoc] using new
    · rw [ril]
      exact Nat.succ_pos _
    · intro address error
      rw [ril]
      by_cases isNew : address = state.ril.nextAddress
      · exact isNew ▸ newListed
      · refine oldListed address (settling.waiting address ?_)
        have notNew : answers address (.responseFunction state.ril.nextAddress function slotId
            RESPONSE_SOLICITED serial err none) = false := by
          simpa [answers] using Ne.symm isNew
        rw [errorsFor, errors, List.filter_append, List.filter_cons_of_neg (by simp [notNew]),
          List.filter_nil, List.append_nil] at error
        exact error

theorem step_keeps_settling (build : RilBuild) (chosen : Nat → Option Nat) (state : RadioState)
    (event : RadioEvent) (settling : Settling build state) (contract : Contract build state event) :
    Settling build (state.step build chosen event) := by
  unfold RadioState.step
  split
  · exact settling
  cases event with
  | vendor event => exact vendor_keeps_settling settling contract
  | request call serial slotId allocated during =>
    obtain ⟨⟨function, answerable⟩, may⟩ := contract
    cases allocated with
    | true => exact request_keeps_settling settling answerable may serial slotId
    | false =>
      have dropped := dispatch_unallocated build chosen call serial slotId during state
      unfold Dropped at dropped
      dsimp only
      rw [dropped]
      split
      · obtain ⟨⟨fresh, distinct, home, gone, once, separate⟩, clean, defined, settled, positive,
          waiting⟩ := settling
        exact ⟨⟨fresh, distinct, home, gone, once, separate⟩, clean, defined, settled, positive,
          waiting⟩
      · exact settling

/-- In every run the heap is empty between two steps, and no free is wrong. A request
that was added is handed on or answered by the service, never both; it has at most one
answer, and one that the service gave leaves the request in its list for good. -/
theorem requests_are_settled_once (build : RilBuild) (chosen : Nat → Option Nat)
    (events : List RadioEvent)
    (contract : ∀ taken ∈ steps (RadioState.step build chosen) RadioState.start events,
      Contract build taken.1 taken.2) :
    ∀ state ∈ states (RadioState.step build chosen) RadioState.start events,
      state.memory.heap = (fun _ => none) ∧ state.undefined = false ∧
      ∀ address, (handedOn address state).length + (errorsFor address state).length =
          (if 0 < address ∧ address < state.ril.nextAddress then 1 else 0) ∧
        (responsesOf address state.ril).length + (errorsFor address state).length ≤ 1 ∧
        (errorsFor address state ≠ [] → Listed state.ril address) := by
  intro state visited
  have settling := invariant_while (step_keeps_settling build chosen) events
    (start_settling build) contract state visited
  refine ⟨settling.clean, settling.defined, fun address =>
    ⟨settling.once address, ?_, settling.waiting address⟩⟩
  by_cases error : errorsFor address state = []
  · simpa [error] using settling.linked.once address
  · have unanswered : responsesOf address state.ril = [] := by
      by_contra answered
      exact (settling.linked.gone address answered).2 (settling.waiting address error)
    have once := settling.once address
    rw [unanswered]
    split at once
    · simp only [List.length_nil]
      omega
    · simp only [List.length_nil]
      omega

/-- A call that the vendor library takes and completes, and one that it never sees. -/
theorem two_dials_are_settled_once :
    let request := RadioRequest.dial ⟨⟨[49, 49, 50]⟩, 0, []⟩
    let events := [.request request 7 0 true [.complete (some 1) 0 0 none true],
      .request request 8 0 true []]
    let chosen := fun number => if number = 0 then some 5 else none
    ∀ state ∈ states (RadioState.step smallBuild chosen) RadioState.start events,
      state.memory.heap = (fun _ => none) ∧ state.undefined = false ∧
      ∀ address, (handedOn address state).length + (errorsFor address state).length =
          (if 0 < address ∧ address < state.ril.nextAddress then 1 else 0) ∧
        (responsesOf address state.ril).length + (errorsFor address state).length ≤ 1 ∧
        (errorsFor address state ≠ [] → Listed state.ril address) :=
  requests_are_settled_once smallBuild _ _ (by
    simp only [steps, List.forall_mem_cons]
    exact ⟨⟨⟨10, rfl⟩, by simp [MayDo, RadioState.start, RilState.start]⟩, ⟨⟨10, rfl⟩, by simp⟩,
      by simp⟩)

end Msm8917Common.RilService
