import Msm8917Common.RilRequests
import Msm8917Common.Runs

/-! Pending requests are completed at most once, each by its own completion. A
request stands in the list of its own socket, and addresses are distinct over all
lists, so a token finds its own request or nothing; a step that finds nothing
changes nothing. -/
namespace Msm8917Common.Ril.RequestsProofs
open Runs FirstMatch RilState

def addresses (state : RilState) (hook : PendingHook) : List Nat :=
  (state.pending hook).map (·.address)

/-- A live request stands at the address. -/
def Listed (state : RilState) (address : Nat) : Prop := ∃ hook, address ∈ addresses state hook

def answers (address : Nat) : RadioCall → Bool
  | .responseFunction request _ _ _ _ _ _ => request = address
  | .acknowledgeRequest _ _ => false

/-- The calls of the response function of the request at an address. -/
def responsesOf (address : Nat) (state : RilState) : List RadioCall :=
  state.calls.filter (answers address)

/-- What is fixed when a request is added: its address, and its socket. -/
def tags (state : RilState) (hook : PendingHook) : List (Nat × Int) :=
  (state.pending hook).map fun pRI => (pRI.address, pRI.socket_id)

structure WellLinked (build : RilBuild) (state : RilState) : Prop where
  fresh : ∀ hook, ∀ tag ∈ tags state hook, tag.1 < state.nextAddress
  distinct : ∀ hook, ((tags state hook).map (·.1)).Nodup
  home : ∀ hook, ∀ tag ∈ tags state hook, dequeueHook build.simCount tag.2 = hook
  gone : ∀ address, responsesOf address state ≠ [] →
    address < state.nextAddress ∧ ¬ Listed state address
  once : ∀ address, (responsesOf address state).length ≤ 1
  separate : ∀ one other, ∀ tag ∈ tags state one, ∀ tag' ∈ tags state other,
    tag.1 = tag'.1 → one = other

/-- Both functions pick the same list for a socket. -/
theorem hooks_agree (simCount : Nat) (socket_id : Int) :
    addHook simCount socket_id = dequeueHook simCount socket_id := by
  unfold addHook dequeueHook
  by_cases second : socket_id = 1
  · simp [second]
  · by_cases third : socket_id = 2
    · simp [third]
    · by_cases fourth : socket_id = 3 <;> simp [second, third, fourth]

theorem tags_addresses (state : RilState) (hook : PendingHook) :
    (tags state hook).map (·.1) = addresses state hook := by
  simp [tags, addresses, Function.comp_def]

theorem listed_iff {state : RilState} {address : Nat} :
    Listed state address ↔ ∃ hook, ∃ tag ∈ tags state hook, tag.1 = address := by
  simp only [Listed, ← tags_addresses, List.mem_map]

/-- The live request at an address is found in the list of its own socket. -/
theorem hook_of_listed {build : RilBuild} {state : RilState} (linked : WellLinked build state)
    {hook : PendingHook} {address : Nat} (listed : address ∈ addresses state hook) (garbage : Int) :
    dequeueHook build.simCount (state.socketIdAt address garbage) = hook := by
  obtain ⟨pRI, member, isAt⟩ := List.mem_map.mp listed
  unfold socketIdAt
  split
  · rename_i found search
    obtain ⟨other, _, search⟩ := List.exists_of_findSome?_eq_some search
    have foundAt : found.address = address := by simpa using List.find?_some search
    have foundTag : (found.address, found.socket_id) ∈ tags state other :=
      List.mem_map_of_mem (List.mem_of_find?_eq_some search)
    have ownTag : (pRI.address, pRI.socket_id) ∈ tags state hook := List.mem_map_of_mem member
    rw [linked.home other _ foundTag]
    exact linked.separate other hook _ foundTag _ ownTag (foundAt.trans isAt.symm)
  · rename_i search
    rw [List.findSome?_eq_none_iff] at search
    have here := search hook (by cases hook <;> simp)
    exact absurd isAt (by simpa using List.find?_eq_none.mp here pRI member)

/-- The list in which a token is looked for. -/
def hookOf (build : RilBuild) (state : RilState) (address : Nat) (garbage : Int) : PendingHook :=
  dequeueHook build.simCount (state.socketIdAt address garbage)

section dequeue

variable {build : RilBuild} {state : RilState} {address : Nat} {garbage : Int} {isAck : Bool}

/-- A token that is in no list is not found, and the lists stay. -/
theorem dequeue_unlisted (build : RilBuild) (garbage : Int) (isAck : Bool)
    (unlisted : ¬ Listed state address) :
    state.checkAndDequeueRequestInfoIfAck build (some address) garbage isAck = (state, none) := by
  have absent : ∀ pRI ∈ state.pending (hookOf build state address garbage),
      decide (pRI.address = address) = false := by
    intro pRI member
    by_contra isAt
    exact unlisted ⟨_, List.mem_map.mpr ⟨pRI, member, by simpa using isAt⟩⟩
  simp only [checkAndDequeueRequestInfoIfAck]
  rw [← hookOf, onFirst_absent absent, Function.update_eq_self]

/-- Whatever is found stands at the address of the token. -/
theorem dequeue_found {next : RilState} {pRI : RequestInfo}
    (done : state.checkAndDequeueRequestInfoIfAck build (some address) garbage isAck =
      (next, some pRI)) :
    pRI.address = address ∧ Listed state address := by
  simp only [checkAndDequeueRequestInfoIfAck, Prod.mk.injEq] at done
  have search := done.2
  rw [onFirst_stop] at search
  have isAt : pRI.address = address := by simpa using List.find?_some search
  refine ⟨isAt, hookOf build state address garbage, ?_⟩
  exact List.mem_map.mpr ⟨pRI, List.mem_of_find?_eq_some search, isAt⟩

/-- Looking up a token touches the lists alone. -/
theorem dequeue_frame (build : RilBuild) (state : RilState) (garbage : Int) (isAck : Bool)
    (t : Option Nat) :
    let next := (state.checkAndDequeueRequestInfoIfAck build t garbage isAck).1
    next.wakeLock = state.wakeLock ∧ next.calls = state.calls ∧
      next.nextAddress = state.nextAddress ∧ next.crashed = state.crashed := by
  cases t <;> exact ⟨rfl, rfl, rfl, rfl⟩

theorem dequeue_pending (hook : PendingHook) :
    (state.checkAndDequeueRequestInfoIfAck build (some address) garbage isAck).1.pending hook =
      if hook = hookOf build state address garbage then
        (onFirst (·.address = address) (dequeueOrAck isAck) (state.pending hook)).2
      else state.pending hook := by
  simp only [checkAndDequeueRequestInfoIfAck]
  rw [← hookOf, Function.update_apply]
  by_cases same : hook = hookOf build state address garbage
  · rw [if_pos same, if_pos same, same]
  · rw [if_neg same, if_neg same]

/-- The other requests stay in their lists, in order and as they are. -/
theorem dequeue_others (hook : PendingHook) :
    ((state.checkAndDequeueRequestInfoIfAck build (some address) garbage isAck).1.pending
        hook).filter (·.address ≠ address) =
      (state.pending hook).filter (·.address ≠ address) := by
  rw [dequeue_pending]
  split
  · have still : ∀ cur new : RequestInfo, decide (cur.address = address) = true →
        dequeueOrAck isAck cur = some new → decide (new.address = address) = true := by
      intro cur new isAt changed
      unfold dequeueOrAck at changed
      split at changed
      · cases changed
        split <;> exact isAt
      · cases changed
    simpa using onFirst_others still (state.pending hook)
  · rfl

/-- An ack changes no tag. -/
theorem ack_tags (hook : PendingHook) :
    tags (state.checkAndDequeueRequestInfoIfAck build (some address) garbage true).1 hook =
      tags state hook := by
  unfold tags
  rw [dequeue_pending]
  split
  · apply onFirst_map
    intro cur
    refine ⟨_, rfl, ?_⟩
    split <;> rfl
  · rfl

theorem dequeue_sublist (hook : PendingHook) :
    ((state.checkAndDequeueRequestInfoIfAck build (some address) garbage false).1.pending
      hook).Sublist (state.pending hook) := by
  rw [dequeue_pending]
  split
  · rw [show dequeueOrAck false = fun _ => none from rfl, onFirst_unlink]
    exact List.eraseP_sublist
  · exact List.Sublist.refl _

/-- A completion unlinks its request. -/
theorem dequeue_gone (linked : WellLinked build state) :
    ¬ Listed (state.checkAndDequeueRequestInfoIfAck build (some address) garbage false).1
      address := by
  rintro ⟨hook, member⟩
  have before : address ∈ addresses state hook :=
    ((dequeue_sublist hook).map (·.address)).subset member
  have picked : hook = hookOf build state address garbage :=
    (hook_of_listed linked before garbage).symm
  have distinct := linked.distinct hook
  rw [tags_addresses] at distinct
  rw [addresses, dequeue_pending, if_pos picked] at member
  exact onFirst_unlinked_gone distinct member

end dequeue

/-- What an ack does once its request is looked up. -/
theorem ack_effect (build : RilBuild) (t : Option Nat) (garbage : Int) (state : RilState) :
    let found := state.checkAndDequeueRequestInfoIfAck build t garbage true
    let next := state.RIL_onRequestAck build t garbage
    next.pending = found.1.pending ∧ next.nextAddress = state.nextAddress ∧
      (∀ address, responsesOf address next = responsesOf address state) ∧
      (found.2 = none → next = found.1) := by
  have frame := dequeue_frame build state garbage true t
  simp only [RIL_onRequestAck]
  rcases done : state.checkAndDequeueRequestInfoIfAck build t garbage true with ⟨next, found⟩
  rw [done] at frame
  obtain ⟨-, calls, nextAddress, -⟩ := frame
  cases found with
  | none => simp_all [responsesOf]
  | some pRI =>
    dsimp only
    split
    · exact ⟨rfl, nextAddress, by simp_all [responsesOf], by simp⟩
    · split
      · exact ⟨rfl, nextAddress, by simp_all [responsesOf, answers], by simp⟩
      · exact ⟨rfl, nextAddress, by simp_all [responsesOf], by simp⟩

/-- What a completion does once its request is looked up: at most one call, and
that one for the request found. -/
theorem complete_effect (build : RilBuild) (t : Option Nat) (garbage e : Int)
    (response : Option (List UInt8)) (timeoutAllocated : Bool) (state : RilState) :
    let found := state.checkAndDequeueRequestInfoIfAck build t garbage false
    let next := state.RIL_onRequestComplete build t garbage e response timeoutAllocated
    next.pending = found.1.pending ∧ next.nextAddress = state.nextAddress ∧
      (found.2 = none → next = found.1) ∧
      (next.calls = state.calls ∨ ∃ pRI, found.2 = some pRI ∧
        ∃ function slotId responseType token, next.calls = state.calls ++
          [.responseFunction pRI.address function slotId responseType token e response]) := by
  have frame := dequeue_frame build state garbage false t
  simp only [RIL_onRequestComplete]
  rcases done : state.checkAndDequeueRequestInfoIfAck build t garbage false with ⟨next, found⟩
  rw [done] at frame
  obtain ⟨-, calls, nextAddress, -⟩ := frame
  cases found with
  | none => exact ⟨rfl, nextAddress, fun _ => rfl, .inl calls⟩
  | some pRI =>
    dsimp only
    split
    · split <;> exact ⟨rfl, nextAddress, by simp, .inl calls⟩
    · split
      · split
        · exact ⟨rfl, nextAddress, by simp, .inl calls⟩
        · exact ⟨rfl, nextAddress, by simp,
            .inr ⟨pRI, rfl, _, _, _, _, congrArg (· ++ _) calls⟩⟩
      · exact ⟨rfl, nextAddress, by simp, .inl calls⟩

/-- Requests that leave the lists, or that stay with their tags, leave the rest
well linked. -/
theorem wellLinked_of_sublists {build : RilBuild} {state next : RilState}
    (linked : WellLinked build state)
    (shorter : ∀ hook, (tags next hook).Sublist (tags state hook))
    (nextAddress : next.nextAddress = state.nextAddress)
    (gone : ∀ address, responsesOf address next ≠ [] →
      address < state.nextAddress ∧ ¬ Listed next address)
    (once : ∀ address, (responsesOf address next).length ≤ 1) : WellLinked build next := by
  constructor
  case fresh =>
    intro hook tag member
    rw [nextAddress]
    exact linked.fresh hook tag ((shorter hook).subset member)
  case distinct => exact fun hook => (linked.distinct hook).sublist ((shorter hook).map _)
  case home => exact fun hook tag member => linked.home hook tag ((shorter hook).subset member)
  case gone =>
    intro address answered
    rw [nextAddress]
    exact gone address answered
  case once => exact once
  case separate =>
    intro one other tag member tag' member' same
    exact linked.separate one other tag ((shorter one).subset member) tag'
      ((shorter other).subset member') same

theorem listed_of_sublists {state next : RilState}
    (shorter : ∀ hook, (tags next hook).Sublist (tags state hook)) {address : Nat}
    (listed : Listed next address) : Listed state address := by
  obtain ⟨hook, tag, member, isAt⟩ := listed_iff.mp listed
  exact listed_iff.mpr ⟨hook, tag, (shorter hook).subset member, isAt⟩

/-- Adding a request puts its tag in front of one list. -/
theorem add_tags (build : RilBuild) (state : RilState) (serial slotId : Int) (request : Nat)
    (hook : PendingHook) :
    tags (state.addRequestToList build serial slotId request true) hook =
      if hook = addHook build.simCount slotId
      then (state.nextAddress, slotId) :: tags state hook else tags state hook := by
  simp only [addRequestToList, if_true, tags, Function.update_apply]
  by_cases same : hook = addHook build.simCount slotId
  · rw [if_pos same, if_pos same, same]
    rfl
  · rw [if_neg same, if_neg same]

theorem mem_add_tags {build : RilBuild} {state : RilState} {serial slotId : Int} {request : Nat}
    {hook : PendingHook} {tag : Nat × Int}
    (member : tag ∈ tags (state.addRequestToList build serial slotId request true) hook) :
    tag ∈ tags state hook ∨
      hook = addHook build.simCount slotId ∧ tag = (state.nextAddress, slotId) := by
  rw [add_tags] at member
  split at member
  · rename_i same
    rcases List.mem_cons.mp member with new | old
    · exact .inr ⟨same, new⟩
    · exact .inl old
  · exact .inl member

theorem add_keeps_linked {build : RilBuild} {state : RilState} (linked : WellLinked build state)
    (serial slotId : Int) (request : Nat) :
    WellLinked build (state.addRequestToList build serial slotId request true) := by
  constructor
  case fresh =>
    intro hook tag member
    rcases mem_add_tags member with old | ⟨-, rfl⟩
    · exact Nat.lt_succ_of_lt (linked.fresh hook tag old)
    · exact Nat.lt_succ_self _
  case distinct =>
    intro hook
    rw [add_tags]
    split
    · refine List.nodup_cons.mpr ⟨?_, linked.distinct hook⟩
      intro member
      obtain ⟨tag, old, same⟩ := List.mem_map.mp member
      have older := linked.fresh hook tag old
      simp only at same
      omega
    · exact linked.distinct hook
  case home =>
    intro hook tag member
    rcases mem_add_tags member with old | ⟨same, rfl⟩
    · exact linked.home hook tag old
    · rw [same, hooks_agree]
  case gone =>
    intro address answered
    obtain ⟨older, unlisted⟩ := linked.gone address answered
    refine ⟨Nat.lt_succ_of_lt older, ?_⟩
    intro listed
    obtain ⟨hook, tag, member, isAt⟩ := listed_iff.mp listed
    rcases mem_add_tags member with old | ⟨-, rfl⟩
    · exact unlisted (listed_iff.mpr ⟨hook, tag, old, isAt⟩)
    · simp only at isAt
      omega
  case once => exact linked.once
  case separate =>
    intro one other tag member tag' member' same
    rcases mem_add_tags member with old | ⟨here, rfl⟩ <;>
      rcases mem_add_tags member' with old' | ⟨here', rfl⟩
    · exact linked.separate one other tag old tag' old' same
    · have older := linked.fresh one tag old
      simp only at same
      omega
    · have older := linked.fresh other tag' old'
      simp only at same
      omega
    · rw [here, here']

theorem ack_step_tags (build : RilBuild) (state : RilState) (t : Option Nat) (garbage : Int)
    (hook : PendingHook) : tags (state.RIL_onRequestAck build t garbage) hook = tags state hook := by
  have pending := (ack_effect build t garbage state).1
  rw [tags, pending]
  cases t with
  | none => rfl
  | some address => exact ack_tags hook

theorem ack_keeps_linked {build : RilBuild} {state : RilState} (linked : WellLinked build state)
    (t : Option Nat) (garbage : Int) :
    WellLinked build (state.RIL_onRequestAck build t garbage) := by
  obtain ⟨-, nextAddress, responses, -⟩ := ack_effect build t garbage state
  have same : ∀ hook, (tags (state.RIL_onRequestAck build t garbage) hook).Sublist
      (tags state hook) := by
    intro hook
    rw [ack_step_tags]
  apply wellLinked_of_sublists linked same nextAddress
  · intro address answered
    rw [responses] at answered
    obtain ⟨older, unlisted⟩ := linked.gone address answered
    exact ⟨older, fun listed => unlisted (listed_of_sublists same listed)⟩
  · intro address
    rw [responses]
    exact linked.once address

/-- The response of a completion, if it makes one, is the first for its request. -/
theorem complete_responses (build : RilBuild) (state : RilState) (t : Option Nat)
    (garbage e : Int) (response : Option (List UInt8)) (timeoutAllocated : Bool) (address : Nat) :
    let next := state.RIL_onRequestComplete build t garbage e response timeoutAllocated
    responsesOf address next = responsesOf address state ∨
      t = some address ∧ Listed state address ∧
        (responsesOf address next).length = (responsesOf address state).length + 1 := by
  obtain ⟨-, -, -, calls⟩ := complete_effect build t garbage e response timeoutAllocated state
  rcases calls with same | ⟨pRI, found, function, slotId, responseType, token, calls⟩
  · exact .inl (by rw [responsesOf, same, responsesOf])
  cases t with
  | none => cases found
  | some wanted =>
    obtain ⟨isAt, listed⟩ := dequeue_found (Prod.ext rfl found)
    by_cases same : wanted = address
    · right
      subst same
      refine ⟨rfl, listed, ?_⟩
      simp [responsesOf, calls, answers, isAt]
    · left
      simp [responsesOf, calls, answers, isAt, same]

theorem complete_sublist (build : RilBuild) (state : RilState) (t : Option Nat) (garbage e : Int)
    (response : Option (List UInt8)) (timeoutAllocated : Bool) (hook : PendingHook) :
    (tags (state.RIL_onRequestComplete build t garbage e response timeoutAllocated) hook).Sublist
      (tags state hook) := by
  have pending := (complete_effect build t garbage e response timeoutAllocated state).1
  rw [tags, pending]
  cases t with
  | none => exact List.Sublist.refl _
  | some address => exact (dequeue_sublist hook).map _

/-- After its completion a request is in no list. -/
theorem complete_unlists {build : RilBuild} {state : RilState} (linked : WellLinked build state)
    (address : Nat) (garbage e : Int) (response : Option (List UInt8)) (timeoutAllocated : Bool) :
    ¬ Listed (state.RIL_onRequestComplete build (some address) garbage e response
      timeoutAllocated) address := by
  have pending := (complete_effect build (some address) garbage e response timeoutAllocated state).1
  have gone : ¬ Listed (state.checkAndDequeueRequestInfoIfAck build (some address) garbage false).1
      address := dequeue_gone linked
  simpa only [Listed, addresses, pending] using gone

theorem complete_keeps_linked {build : RilBuild} {state : RilState} (linked : WellLinked build state)
    (t : Option Nat) (garbage e : Int) (response : Option (List UInt8)) (timeoutAllocated : Bool) :
    WellLinked build
      (state.RIL_onRequestComplete build t garbage e response timeoutAllocated) := by
  obtain ⟨-, nextAddress, -⟩ := complete_effect build t garbage e response timeoutAllocated state
  have shorter := complete_sublist build state t garbage e response timeoutAllocated
  have fresh : ∀ address, Listed state address → address < state.nextAddress := by
    intro address listed
    obtain ⟨hook, tag, member, rfl⟩ := listed_iff.mp listed
    exact linked.fresh hook tag member
  apply wellLinked_of_sublists linked shorter nextAddress
  · intro address answered
    rcases complete_responses build state t garbage e response timeoutAllocated address with
      same | ⟨rfl, listed, -⟩
    · rw [same] at answered
      obtain ⟨older, unlisted⟩ := linked.gone address answered
      exact ⟨older, fun listed => unlisted (listed_of_sublists shorter listed)⟩
    · exact ⟨fresh address listed, complete_unlists linked address garbage e response _⟩
  · intro address
    rcases complete_responses build state t garbage e response timeoutAllocated address with
      same | ⟨-, listed, one⟩
    · rw [same]
      exact linked.once address
    · have none : responsesOf address state = [] := by
        by_contra answered
        exact (linked.gone address answered).2 listed
      simp [one, none]

theorem step_keeps_linked (build : RilBuild) (state : RilState) (event : RilEvent)
    (linked : WellLinked build state) : WellLinked build (state.step build event) := by
  unfold step
  split
  · exact linked
  cases event with
  | addRequestToList serial slotId request allocated =>
    cases allocated with
    | true => exact add_keeps_linked linked serial slotId request
    | false => exact linked
  | ack t garbage => exact ack_keeps_linked linked t garbage
  | complete t garbage e response timeoutAllocated =>
    exact complete_keeps_linked linked t garbage e response timeoutAllocated
  | wake event =>
    exact ⟨linked.fresh, linked.distinct, linked.home, linked.gone, linked.once, linked.separate⟩

/-- The token that an ack or a completion names. -/
def tokenOf : RilEvent → Option (Option Nat)
  | .ack t _ => some t
  | .complete t _ _ _ _ => some t
  | _ => none

def isCompletionOf (address : Nat) : RilEvent → Prop
  | .complete t _ _ _ _ => t = some address
  | _ => False

/-- What one event does to the requests that it is not about. -/
structure Independent (build : RilBuild) (state : RilState) (event : RilEvent) : Prop where
  ack_keeps : ∀ t garbage, event = .ack t garbage →
    ∀ hook, addresses (state.step build event) hook = addresses state hook
  others : ∀ address, tokenOf event = some (some address) → ∀ hook,
    ((state.step build event).pending hook).filter (·.address ≠ address) =
      (state.pending hook).filter (·.address ≠ address)
  unlisted : ∀ t, tokenOf event = some t → (∀ address ∈ t, ¬ Listed state address) →
    state.step build event = state
  own : ∀ address, responsesOf address (state.step build event) ≠ responsesOf address state →
    isCompletionOf address event ∧ Listed state address ∧
      ¬ Listed (state.step build event) address
  completed : ∀ address, state.crashed = false → isCompletionOf address event →
    ¬ Listed (state.step build event) address

theorem ack_independent (build : RilBuild) (state : RilState) (running : state.crashed = false)
    (t : Option Nat) (garbage : Int) : Independent build state (.ack t garbage) := by
  obtain ⟨pending, -, responses, missed⟩ := ack_effect build t garbage state
  have isStep : state.step build (.ack t garbage) = state.RIL_onRequestAck build t garbage := by
    simp [step, running]
  constructor
  case ack_keeps =>
    intro _ _ _ hook
    rw [isStep, ← tags_addresses, ack_step_tags, tags_addresses]
  case others =>
    rintro address ⟨⟩ hook
    rw [isStep, pending]
    exact dequeue_others hook
  case unlisted =>
    rintro _ ⟨⟩ unlisted
    rw [isStep]
    cases t with
    | none => rfl
    | some address =>
      have found := dequeue_unlisted build garbage true (unlisted address rfl)
      rw [missed (by rw [found]), found]
  case own =>
    intro address changed
    rw [isStep, responses] at changed
    exact absurd rfl changed
  case completed => exact fun _ _ completes => absurd completes id

theorem complete_independent {build : RilBuild} {state : RilState}
    (linked : WellLinked build state) (running : state.crashed = false) (t : Option Nat)
    (garbage e : Int) (response : Option (List UInt8)) (timeoutAllocated : Bool) :
    Independent build state (.complete t garbage e response timeoutAllocated) := by
  obtain ⟨pending, -, missed, -⟩ := complete_effect build t garbage e response timeoutAllocated state
  have isStep : state.step build (.complete t garbage e response timeoutAllocated) =
      state.RIL_onRequestComplete build t garbage e response timeoutAllocated := by
    simp [step, running]
  constructor
  case ack_keeps => rintro _ _ ⟨⟩
  case others =>
    rintro address ⟨⟩ hook
    rw [isStep, pending]
    exact dequeue_others hook
  case unlisted =>
    rintro _ ⟨⟩ unlisted
    rw [isStep]
    cases t with
    | none => rfl
    | some address =>
      have found := dequeue_unlisted build garbage false (unlisted address rfl)
      rw [missed (by rw [found]), found]
  case own =>
    intro address changed
    rw [isStep] at changed ⊢
    rcases complete_responses build state t garbage e response timeoutAllocated address with
      same | ⟨rfl, listed, -⟩
    · exact absurd same changed
    · exact ⟨rfl, listed, complete_unlists linked address garbage e response _⟩
  case completed =>
    rintro address _ rfl
    rw [isStep]
    exact complete_unlists linked address garbage e response _

/-- Every event leaves the requests it is not about alone. -/
theorem step_independent {build : RilBuild} {state : RilState} (linked : WellLinked build state)
    (event : RilEvent) : Independent build state event := by
  cases running : state.crashed with
  | true =>
    have stays : state.step build event = state := by simp [step, running]
    constructor <;> simp [stays, running]
  | false =>
    cases event with
    | ack t garbage => exact ack_independent build state running t garbage
    | complete t garbage e response timeoutAllocated =>
      exact complete_independent linked running t garbage e response timeoutAllocated
    | addRequestToList serial slotId request allocated =>
      constructor
      case own =>
        intro address changed
        cases allocated <;> simp [step, running, addRequestToList, responsesOf] at changed
      all_goals simp [tokenOf, isCompletionOf]
    | wake event => constructor <;> simp [tokenOf, isCompletionOf, step, running, responsesOf]

theorem start_linked (build : RilBuild) : WellLinked build RilState.start := by
  constructor <;> simp [RilState.start, tags, responsesOf]

/-- In every run each request is answered at most once, and every ack or
completion leaves the other requests alone. -/
theorem requests_complete_once_and_independently (build : RilBuild) (events : List RilEvent) :
    (∀ state ∈ states (RilState.step build) RilState.start events,
      ∀ address, (responsesOf address state).length ≤ 1) ∧
    ∀ taken ∈ steps (RilState.step build) RilState.start events,
      Independent build taken.1 taken.2 := by
  constructor
  · intro state visited
    exact (invariant_states (step_keeps_linked build) events (start_linked build) state visited).once
  · exact events_of_invariant (step_keeps_linked build)
      (fun state event linked => step_independent linked event) events (start_linked build)

end Msm8917Common.Ril.RequestsProofs
