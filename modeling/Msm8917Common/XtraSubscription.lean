import Msm8917Common.SubscriptionProofs

/-! What the Xtra observer subscribes to and what it gives back. Its two requests
leave three items under its name, its one way out names two of them. What other
clients do in between touches neither. -/
namespace Msm8917Common.XtraSubscription
open Runs SystemStatusOsObserver LocUnorderedSetMap SubscriptionProofs

/-- `XtraSystemStatusObserver::subscribe`, as the calls it makes on the observer
under the pointer `client` of the Xtra observer itself. -/
def subscribe (client : Client) (yes : Bool) : List (SubscriptionCall Client) :=
  let subItemIdList := [DataItemId.networkInfo, DataItemId.mccmnc]
  if yes then
    let reqItemIdList := [DataItemId.tac]
    [.subscribe subItemIdList (some client), .requestData reqItemIdList (some client)]
  else [.unsubscribe subItemIdList (some client)]

/-- The client a call names. -/
def calledFor : SubscriptionCall Client → Option Client
  | .setSubscriptionObj _ => none
  | .subscribe _ client => client
  | .requestData _ client => client
  | .updateSubscription _ client => client
  | .unsubscribe _ client => client
  | .unsubscribeAll client => client

section Model
variable [DecidableEq Client]

/-- What the observer calls while it processes the message of a call. -/
def callsMade (observer : SystemStatusOsObserver Client Core) (call : SubscriptionCall Client) :
    List (ObserverCall Client Core) :=
  match call.msg with
  | none => []
  | some msg => (observer.proc msg).2

/-- The calls that name the client. -/
def callsOf (client : Client) (calls : List (SubscriptionCall Client)) :
    List (SubscriptionCall Client) :=
  calls.filter fun call => calledFor call = some client

/-- The client is a key of the one map or a value in the other. -/
def Occurs (observer : SystemStatusOsObserver Client Core) (client : Client) : Prop :=
  (observer.mClientToDataItems.getValSetPtr client).isSome = true ∨
    ∃ item, observer.mDataItemToClients.Holds item client

/-- The client is recorded for the item, and no other one is. -/
def OnlyClient (observer : SystemStatusOsObserver Client Core) (client : Client)
    (item : DataItemId) : Prop :=
  ∀ probe, observer.mDataItemToClients.Holds item probe ↔ probe = client

/-- One of the calls unsubscribes the item at the framework. -/
def UnsubscribesItem (calls : List (ObserverCall Client Core)) (item : DataItemId) : Prop :=
  ∃ items, .unsubscribe items ∈ calls ∧ item ∈ items

/-- Both maps record exactly these items under the client. -/
def Recorded (client : Client) (held : DataItemId → Prop)
    (observer : SystemStatusOsObserver Client Core) : Prop :=
  ∀ item, (observer.mClientToDataItems.Holds client item ↔ held item) ∧
    (observer.mDataItemToClients.Holds item client ↔ held item)

/-- The observer once the messages of the calls are processed. -/
def observerAfter (Core : Type*) (calls : List (SubscriptionCall Client)) :
    SystemStatusOsObserver Client Core :=
  calls.foldl step new

/-- What unsubscribing is to bring about, after the calls of `before` and with
those of `after` still to follow: no trace of the Xtra observer, and no
subscription at the framework that was there for it alone. -/
structure GivesBack (Core : Type*) (client : Client)
    (before after : List (SubscriptionCall Client)) : Prop where
  gone : ¬ Occurs (observerAfter Core (before ++ subscribe client false ++ after)) client
  unsubscribed : ∀ item, OnlyClient (observerAfter Core before) client item →
    (observerAfter Core before).mSubscriptionObj = true →
    ∃ call ∈ subscribe client false,
      UnsubscribesItem (callsMade (observerAfter Core before) call) item

end Model

/-- What a client's own call does to the items it holds. A replacement is not
among the calls the Xtra observer makes: the two maps disagree after it. -/
def heldAfter (held : DataItemId → Prop) : SubscriptionCall Client → DataItemId → Prop
  | .subscribe l _, item => held item ∨ item ∈ l
  | .requestData l _, item => held item ∨ item ∈ l
  | .unsubscribe l _, item => held item ∧ item ∉ l
  | .unsubscribeAll _, _ => False
  | _, item => held item

section Steps
variable [DecidableEq Client] {client : Client} {held : DataItemId → Prop}
  {observer : SystemStatusOsObserver Client Core}

private theorem recorded_congr (recorded : Recorded client held observer)
    {items : DataItemId → Prop} (same : ∀ item, held item ↔ items item) :
    Recorded client items observer := by
  intro item
  rw [← same]
  exact recorded item

/-- A call that names someone else leaves the items of the client alone. -/
theorem recorded_of_other (recorded : Recorded client held observer)
    {call : SubscriptionCall Client} (other : calledFor call ≠ some client) :
    Recorded client held (step observer call) := by
  intro item
  rw [← (recorded item).1]
  have both := (recorded item).2.trans (recorded item).1.symm
  unfold step
  split
  · exact ⟨Iff.rfl, both⟩
  · next msg sent =>
    rw [proc_client_items, proc_item_clients]
    unfold SubscriptionCall.msg at sent
    split at sent
    all_goals cases sent
    all_goals simp only [calledFor, ne_eq, Option.some.injEq] at other
    all_goals grind [clientItemsAfter, itemClientsAfter]

private theorem recorded_adds (recorded : Recorded client held observer) (l : List DataItemId)
    (mToRequestData : Bool) :
    Recorded client (fun item => held item ∨ item ∈ l)
      (observer.proc (.handleSubscribeReq client (.ofList l) mToRequestData)).1 := by
  intro item
  obtain ⟨items, clients⟩ := recorded item
  simp only [proc_client_items, proc_item_clients, clientItemsAfter, itemClientsAfter,
    UnorderedSet.mem_ofList, items, clients, true_and, and_self]

private theorem recorded_removes (recorded : Recorded client held observer)
    (l : List DataItemId) :
    Recorded client (fun item => held item ∧ item ∉ l)
      (observer.proc (.handleUnsubscribeReq client (.ofList l))).1 := by
  intro item
  obtain ⟨items, clients⟩ := recorded item
  simp only [proc_client_items, proc_item_clients, clientItemsAfter, itemClientsAfter,
    UnorderedSet.mem_ofList, items, clients, true_and]
  grind

/-- A call of the client itself does to both maps what it does to its items. -/
theorem recorded_of_own (recorded : Recorded client held observer) {call : SubscriptionCall Client}
    (own : calledFor call = some client) (keeps : ∀ l, call ≠ .updateSubscription l (some client)) :
    Recorded client (heldAfter held call) (step observer call) := by
  cases call with
  | setSubscriptionObj subscriptionObj => cases own
  | subscribe l named =>
    cases own
    cases l with
    | nil => simpa [step, SubscriptionCall.msg, heldAfter, Recorded] using recorded
    | cons item l => exact recorded_adds recorded (item :: l) false
  | requestData l named =>
    cases own
    cases l with
    | nil => simpa [step, SubscriptionCall.msg, heldAfter, Recorded] using recorded
    | cons item l => exact recorded_adds recorded (item :: l) true
  | updateSubscription l named =>
    cases own
    exact absurd rfl (keeps l)
  | unsubscribe l named =>
    cases own
    cases l with
    | nil => simpa [step, SubscriptionCall.msg, heldAfter, Recorded] using recorded
    | cons item l => exact recorded_removes recorded (item :: l)
  | unsubscribeAll named =>
    cases own
    intro item
    obtain ⟨items, clients⟩ := recorded item
    simp only [step, SubscriptionCall.msg, proc_client_items, proc_item_clients, clientItemsAfter,
      itemClientsAfter, heldAfter, items, clients]
    grind

/-- Over a run the items of the client follow its own calls alone, whatever the
calls of others in between. -/
theorem recorded_run (calls : List (SubscriptionCall Client))
    (recorded : Recorded client held observer)
    (keeps : ∀ call ∈ callsOf client calls, ∀ l, call ≠ .updateSubscription l (some client)) :
    Recorded client ((callsOf client calls).foldl heldAfter held) (calls.foldl step observer) := by
  induction calls generalizing observer held with
  | nil => exact recorded
  | cons call rest ih =>
    by_cases own : calledFor call = some client
    · have split_off : callsOf client (call :: rest) = call :: callsOf client rest :=
        List.filter_cons_of_pos (by simpa using own)
      rw [split_off, List.forall_mem_cons] at keeps
      rw [split_off, List.foldl_cons, List.foldl_cons]
      exact ih (recorded_of_own recorded own keeps.1) keeps.2
    · have left_out : callsOf client (call :: rest) = callsOf client rest :=
        List.filter_cons_of_neg (by simpa using own)
      rw [left_out] at keeps
      rw [left_out, List.foldl_cons]
      exact ih (recorded_of_other recorded own) keeps

omit [DecidableEq Client] in
private theorem held_after_subscribe (item : DataItemId) :
    (subscribe client true).foldl heldAfter held item ↔
      held item ∨ item ∈ [DataItemId.networkInfo, .mccmnc, .tac] := by
  simp only [subscribe, ↓reduceIte, List.foldl_cons, List.foldl_nil, heldAfter, List.mem_cons,
    List.not_mem_nil, or_false, or_assoc]

omit [DecidableEq Client] in
/-- However often it subscribes, the Xtra observer holds the same three items. -/
theorem held_after_subscribing (n : Nat) (item : DataItemId) :
    (List.replicate n (subscribe client true)).flatten.foldl heldAfter (fun _ => False) item ↔
      0 < n ∧ item ∈ [DataItemId.networkInfo, .mccmnc, .tac] := by
  induction n with
  | zero => simp
  | succ n ih =>
    rw [List.replicate_succ', List.flatten_append, List.foldl_append, List.flatten_singleton,
      held_after_subscribe, ih]
    grind

end Steps

section Framework
variable [DecidableEq Client] {client : Client} {held : DataItemId → Prop}
  {observer : SystemStatusOsObserver Client Core}

omit [DecidableEq Client] in
private theorem unsubscribes_toFramework (items : UnorderedSet DataItemId) (item : DataItemId) :
    UnsubscribesItem (observer.toFramework .unsubscribe items) item ↔
      observer.mSubscriptionObj = true ∧ item ∈ items := by
  unfold UnsubscribesItem toFramework
  cases observer.mSubscriptionObj with
  | false => simp
  | true =>
    cases nothing : items.isEmpty with
    | true => simp [UnorderedSet.isEmpty_iff.mp nothing item]
    | false =>
      simp only [Bool.not_false, Bool.and_self, ↓reduceIte, List.mem_singleton,
        ObserverCall.unsubscribe.injEq, exists_eq_left, true_and]
      exact List.mem_reverse

/-- The framework hears of exactly those of the given items that no one else
wants. -/
theorem unsubscribes_iff (recorded : Recorded client held observer) (full : NoEmptySets observer)
    (l : List DataItemId) (item : DataItemId) :
    UnsubscribesItem (callsMade observer (.unsubscribe l (some client))) item ↔
      observer.mSubscriptionObj = true ∧ item ∈ l ∧ OnlyClient observer client item := by
  cases l with
  | nil => simp [callsMade, SubscriptionCall.msg, UnsubscribesItem]
  | cons head rest =>
    have made : callsMade observer (.unsubscribe (head :: rest) (some client)) =
        (observer.proc (.handleUnsubscribeReq client (.ofList (head :: rest)))).1.toFramework
          .unsubscribe (observer.mDataItemToClients.trimOrRemove
            (observer.mClientToDataItems.trimOrRemove (.singleton client)
              (.ofList (head :: rest)) .empty .empty).2.2
            (.singleton client) .empty .empty).2.1 := rfl
    have kept : (observer.proc (.handleUnsubscribeReq client
        (.ofList (head :: rest)))).1.mSubscriptionObj = observer.mSubscriptionObj := rfl
    have both := (recorded item).1.trans (recorded item).2.symm
    rw [made, unsubscribes_toFramework, kept, trimOrRemove_goneKeys full.2, trimOrRemove_gone]
    simp only [UnorderedSet.mem_singleton, UnorderedSet.not_mem_empty, false_or, exists_eq_left,
      UnorderedSet.mem_ofList, both, OnlyClient]
    grind

end Framework

section Run
variable [DecidableEq Client] (Core : Type*) (client : Client) (n : Nat)
  (before after : List (SubscriptionCall Client))

/-- The Xtra observer has subscribed `n` times among the calls so far. -/
def SubscribedTimes (client : Client) (n : Nat) (calls : List (SubscriptionCall Client)) : Prop :=
  callsOf client calls = (List.replicate n (subscribe client true)).flatten

private theorem no_empty_sets_after : NoEmptySets (observerAfter Core before) :=
  invariant_reachable step_no_empty_sets ⟨noEmptyEntry_new, noEmptyEntry_new⟩ ⟨before, rfl⟩

private theorem recorded_after_subscribing (own : SubscribedTimes client n before) :
    Recorded client (fun item => 0 < n ∧ item ∈ [DataItemId.networkInfo, .mccmnc, .tac])
      (observerAfter Core before) := by
  have start : Recorded client (fun _ => False) (new : SystemStatusOsObserver Client Core) :=
    fun item => ⟨iff_of_false (not_holds_new client item) id,
      iff_of_false (not_holds_new item client) id⟩
  have keeps : ∀ call ∈ callsOf client before, ∀ l,
      call ≠ .updateSubscription l (some client) := by
    intro call member l
    rw [own] at member
    obtain ⟨calls, repeated, listed⟩ := List.mem_flatten.mp member
    cases List.eq_of_mem_replicate repeated
    rintro rfl
    simp [subscribe] at listed
  have run := recorded_run before start keeps
  rw [own] at run
  exact recorded_congr run (held_after_subscribing n)

/-- What is left of the Xtra observer once it has unsubscribed is the item it
requested, in both maps, if it ever subscribed. -/
theorem requested_item_is_left (own : SubscribedTimes client n before)
    (others : callsOf client after = []) :
    Recorded client (fun item => 0 < n ∧ item = .tac)
      (observerAfter Core (before ++ subscribe client false ++ after)) := by
  have subscribed := recorded_after_subscribing Core client n before own
  have leaves (l : List DataItemId) :
      SubscriptionCall.unsubscribe [.networkInfo, .mccmnc] (some client) ≠
        .updateSubscription l (some client) := by simp
  have unsubscribed := recorded_of_own subscribed
    (rfl : calledFor (.unsubscribe [.networkInfo, .mccmnc] (some client)) = some client) leaves
  have left := recorded_run after unsubscribed (by simp [others])
  rw [others] at left
  rw [observerAfter, List.foldl_append, List.foldl_append]
  apply recorded_congr left
  intro item
  simp only [List.foldl_nil, heldAfter, List.mem_cons, List.not_mem_nil, or_false]
  grind

/-- Of the items that nobody else wants, the framework is left with the
requested one. -/
theorem requested_item_stays_subscribed (own : SubscribedTimes client n before) {item : DataItemId}
    (only : OnlyClient (observerAfter Core before) client item)
    (framework : (observerAfter Core before).mSubscriptionObj = true) :
    (∃ call ∈ subscribe client false,
        UnsubscribesItem (callsMade (observerAfter Core before) call) item) ↔ item ≠ .tac := by
  have recorded := recorded_after_subscribing Core client n before own
  have full := no_empty_sets_after Core before
  have listed := ((recorded item).2.mp ((only client).mpr rfl)).2
  simp only [subscribe, Bool.false_eq_true, ↓reduceIte, List.mem_singleton, exists_eq_left,
    unsubscribes_iff recorded full, framework, only, true_and, and_true]
  simp only [List.mem_cons, List.not_mem_nil, or_false] at listed ⊢
  grind

/-- The Xtra observer is gone from both maps, and the framework from what it
alone wanted, exactly when it never subscribed. -/
theorem xtra_gives_back_iff_never_subscribed (own : SubscribedTimes client n before)
    (others : callsOf client after = []) : GivesBack Core client before after ↔ n = 0 := by
  have left := requested_item_is_left Core client n before after own others
  constructor
  · rintro ⟨gone, _⟩
    by_contra subscribed
    apply gone
    exact .inr ⟨.tac, (left .tac).2.mpr ⟨Nat.pos_of_ne_zero subscribed, rfl⟩⟩
  · rintro rfl
    constructor
    · rintro (key | ⟨item, value⟩)
      · have full := no_empty_sets_after Core (before ++ subscribe client false ++ after)
        obtain ⟨item, held⟩ := (full.1.isSome_iff client).mp key
        exact absurd ((left item).1.mp held).1 (Nat.lt_irrefl 0)
      · exact absurd ((left item).2.mp value).1 (Nat.lt_irrefl 0)
    · intro item only
      have recorded := recorded_after_subscribing Core client 0 before own
      have held := (recorded item).2.mp ((only client).mpr rfl)
      exact absurd held.1 (Nat.lt_irrefl 0)

/-- Two subscriptions, with another client's calls around them. -/
theorem xtra_gives_back_among_other_clients :
    GivesBack Unit 7
      ([.setSubscriptionObj true] ++ subscribe 7 true ++ [.subscribe [.tac] (some 3)] ++
        subscribe 7 true) [.unsubscribe [.tac] (some 3)] ↔ 2 = 0 :=
  xtra_gives_back_iff_never_subscribed Unit 7 2 _ _ (by rfl) (by rfl)

/-- An Xtra observer that subscribed once and is destroyed is still a client of
the item it requested. -/
theorem destroyed_xtra_still_occurs : ¬ GivesBack Unit 7 (subscribe 7 true) [] := by
  rintro ⟨gone, _⟩
  apply gone
  exact .inr ⟨.tac, by decide⟩

end Run
end Msm8917Common.XtraSubscription
