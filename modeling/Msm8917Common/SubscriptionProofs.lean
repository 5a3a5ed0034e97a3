import Msm8917Common.SystemStatusOsObserver

/-! The two subscription maps of the observer are each other's inverse as long
as no client replaces a subscription it already has. `update` returns what the
old and the new set share, so a replacement takes the client out of the shared
items and leaves it with the ones it dropped. -/
namespace Msm8917Common.SubscriptionProofs
open Runs SystemStatusOsObserver LocUnorderedSetMap

variable [DecidableEq Client]

/-- An item is recorded for a client exactly when the client is recorded for
the item. -/
def MutualInverse (observer : SystemStatusOsObserver Client Core) : Prop :=
  ∀ client item, observer.mClientToDataItems.Holds client item ↔
    observer.mDataItemToClients.Holds item client

/-- Neither map has an entry with an empty set. -/
def NoEmptySets (observer : SystemStatusOsObserver Client Core) : Prop :=
  observer.mClientToDataItems.NoEmptyEntry ∧ observer.mDataItemToClients.NoEmptyEntry

/-- A call that replaces the items of its client meets a client without any. -/
def FirstSubscription (observer : SystemStatusOsObserver Client Core)
    (call : SubscriptionCall Client) : Prop :=
  ∀ l client, call = .updateSubscription l (some client) → l ≠ [] →
    ∀ item, ¬ observer.mClientToDataItems.Holds client item

section Fields
variable (observer : SystemStatusOsObserver Client Core) (client : Client)
  (items : UnorderedSet DataItemId)

private theorem update_items_map :
    (observer.handleUpdateSubscriptionReq client items).1.mDataItemToClients =
      ((observer.mDataItemToClients.trimOrRemove
          (observer.mClientToDataItems.update client items).2.1
          (.singleton client) .empty .empty).1.addKeys
        (observer.mClientToDataItems.update client items).2.2 (.singleton client) .empty).1 := rfl

private theorem unsubscribe_clients_map :
    (observer.handleUnsubscribeReq client items).1.mClientToDataItems =
      (observer.mClientToDataItems.trimOrRemove (.singleton client) items .empty .empty).1 := rfl

private theorem unsubscribe_items_map :
    (observer.handleUnsubscribeReq client items).1.mDataItemToClients =
      (observer.mDataItemToClients.trimOrRemove
        (observer.mClientToDataItems.trimOrRemove (.singleton client) items .empty .empty).2.2
        (.singleton client) .empty .empty).1 := rfl

end Fields

/-- What a call does to the items of each client. -/
def clientItemsAfter (observer : SystemStatusOsObserver Client Core) (probe : Client)
    (item : DataItemId) : SubscriptionMsg Client → Prop
  | .setSubsObj => observer.mClientToDataItems.Holds probe item
  | .handleSubscribeReq client items _ =>
    observer.mClientToDataItems.Holds probe item ∨ probe = client ∧ item ∈ items
  | .handleUpdateSubscriptionReq client items =>
    if probe = client then item ∈ items else observer.mClientToDataItems.Holds probe item
  | .handleUnsubscribeReq client items =>
    observer.mClientToDataItems.Holds probe item ∧ ¬ (probe = client ∧ item ∈ items)
  | .handleUnsubscribeAllReq client =>
    probe ≠ client ∧ observer.mClientToDataItems.Holds probe item

theorem proc_client_items (observer : SystemStatusOsObserver Client Core) (probe : Client)
    (item : DataItemId) (msg : SubscriptionMsg Client) :
    (observer.proc msg).1.mClientToDataItems.Holds probe item ↔
      clientItemsAfter observer probe item msg := by
  cases msg with
  | setSubsObj =>
    simp only [proc, setSubsObj, clientItemsAfter]
    split <;> rfl
  | handleSubscribeReq client items mToRequestData => exact add_holds
  | handleUpdateSubscriptionReq client items => exact update_holds
  | handleUnsubscribeReq client items =>
    rw [proc, unsubscribe_clients_map, trimOrRemove_holds, UnorderedSet.mem_singleton]
    rfl
  | handleUnsubscribeAllReq client =>
    simp only [proc, handleUnsubscribeAllReq, clientItemsAfter]
    split
    · rename_i nothing
      have none_held := UnorderedSet.isEmpty_iff.mp nothing item
      exact ⟨fun held => ⟨fun same => none_held (same ▸ held), held⟩, fun held => held.2⟩
    · exact remove_holds

/-- What a call does to the clients of each item. The update message adds the
client to the items that are new to it and takes it out of those that are not. -/
def itemClientsAfter (observer : SystemStatusOsObserver Client Core) (probe : Client)
    (item : DataItemId) : SubscriptionMsg Client → Prop
  | .setSubsObj => observer.mDataItemToClients.Holds item probe
  | .handleSubscribeReq client items _ =>
    observer.mDataItemToClients.Holds item probe ∨ probe = client ∧ item ∈ items
  | .handleUpdateSubscriptionReq client items =>
    observer.mDataItemToClients.Holds item probe ∧
        ¬ (probe = client ∧ item ∈ items ∧ observer.mClientToDataItems.Holds client item) ∨
      probe = client ∧ item ∈ items ∧ ¬ observer.mClientToDataItems.Holds client item
  | .handleUnsubscribeReq client items =>
    observer.mDataItemToClients.Holds item probe ∧
      ¬ (probe = client ∧ item ∈ items ∧ observer.mClientToDataItems.Holds client item)
  | .handleUnsubscribeAllReq client =>
    observer.mDataItemToClients.Holds item probe ∧
      ¬ (probe = client ∧ observer.mClientToDataItems.Holds client item)

theorem proc_item_clients (observer : SystemStatusOsObserver Client Core) (probe : Client)
    (item : DataItemId) (msg : SubscriptionMsg Client) :
    (observer.proc msg).1.mDataItemToClients.Holds item probe ↔
      itemClientsAfter observer probe item msg := by
  cases msg with
  | setSubsObj =>
    simp only [proc, setSubsObj, itemClientsAfter]
    split <;> rfl
  | handleSubscribeReq client items mToRequestData =>
    apply addKeys_holds.trans
    simp only [UnorderedSet.mem_singleton, itemClientsAfter]
    grind
  | handleUpdateSubscriptionReq client items =>
    rw [proc, update_items_map, addKeys_holds, trimOrRemove_holds, update_gone, update_left,
      UnorderedSet.mem_singleton, itemClientsAfter]
    grind
  | handleUnsubscribeReq client items =>
    rw [proc, unsubscribe_items_map, trimOrRemove_holds, trimOrRemove_gone]
    simp only [UnorderedSet.mem_singleton, UnorderedSet.not_mem_empty, false_or, exists_eq_left,
      itemClientsAfter]
    grind
  | handleUnsubscribeAllReq client =>
    simp only [proc, handleUnsubscribeAllReq, itemClientsAfter]
    split
    · rename_i nothing
      have none_held := UnorderedSet.isEmpty_iff.mp nothing item
      exact ⟨fun held => ⟨held, fun both => none_held both.2⟩, fun held => held.1⟩
    · apply trimOrRemove_holds.trans
      simp only [UnorderedSet.mem_singleton]
      exact and_congr_right fun _ => not_congr and_comm

theorem proc_no_empty_sets (observer : SystemStatusOsObserver Client Core)
    (msg : SubscriptionMsg Client) (full : NoEmptySets observer) :
    NoEmptySets (observer.proc msg).1 := by
  obtain ⟨clients, items⟩ := full
  cases msg with
  | setSubsObj =>
    simp only [proc, setSubsObj]
    split <;> exact ⟨clients, items⟩
  | handleSubscribeReq client set mToRequestData => exact ⟨add_full clients, addKeys_full items⟩
  | handleUpdateSubscriptionReq client set =>
    exact ⟨update_full clients, addKeys_full (trimOrRemove_full items)⟩
  | handleUnsubscribeReq client set =>
    rw [proc, NoEmptySets, unsubscribe_clients_map, unsubscribe_items_map]
    exact ⟨trimOrRemove_full clients, trimOrRemove_full items⟩
  | handleUnsubscribeAllReq client =>
    simp only [proc, handleUnsubscribeAllReq]
    split
    · exact ⟨clients, items⟩
    · exact ⟨remove_full clients, trimOrRemove_full items⟩

/-- Only the update message can break the inverse, and it does so for every
item that its client had: the item is dropped on one side exactly when it is
kept on the other. -/
theorem proc_inverse_iff (observer : SystemStatusOsObserver Client Core)
    (msg : SubscriptionMsg Client) (inverse : MutualInverse observer) :
    MutualInverse (observer.proc msg).1 ↔
      ∀ client items, msg = .handleUpdateSubscriptionReq client items →
        ∀ item, ¬ observer.mClientToDataItems.Holds client item := by
  simp only [MutualInverse, proc_client_items, proc_item_clients]
  cases msg with
  | handleUpdateSubscriptionReq client items =>
    simp only [clientItemsAfter, itemClientsAfter]
    constructor
    · rintro after _ _ ⟨⟩ item held
      have crossed := after client item
      have recorded := (inverse client item).mp held
      simp only [↓reduceIte, recorded, held, true_and, and_true, not_true_eq_false, and_false,
        or_false] at crossed
      exact iff_not_self crossed
    · intro fresh probe item
      have absent := fresh client items rfl item
      have recorded := inverse probe item
      by_cases same : probe = client
      · subst same
        simp only [↓reduceIte, absent, ← recorded, false_and, not_false_eq_true, and_true,
          true_and, false_or]
      · simp only [same, ↓reduceIte, recorded, false_and, not_false_eq_true, and_true, or_false]
  | setSubsObj => exact iff_of_true inverse (fun _ _ sent => by cases sent)
  | handleSubscribeReq client items mToRequestData =>
    refine iff_of_true (fun probe item => ?_) (fun _ _ sent => by cases sent)
    have recorded := inverse probe item
    have own := inverse client item
    simp only [clientItemsAfter, itemClientsAfter]
    grind
  | handleUnsubscribeReq client items =>
    refine iff_of_true (fun probe item => ?_) (fun _ _ sent => by cases sent)
    have recorded := inverse probe item
    have own := inverse client item
    simp only [clientItemsAfter, itemClientsAfter]
    grind
  | handleUnsubscribeAllReq client =>
    refine iff_of_true (fun probe item => ?_) (fun _ _ sent => by cases sent)
    have recorded := inverse probe item
    have own := inverse client item
    simp only [clientItemsAfter, itemClientsAfter]
    grind

omit [DecidableEq Client] in
/-- The update message a call sends carries the set of its list. -/
private theorem update_msg_iff (call : SubscriptionCall Client) (client : Client) :
    (∃ items, call.msg = some (.handleUpdateSubscriptionReq client items)) ↔
      ∃ l, l ≠ [] ∧ call = .updateSubscription l (some client) := by
  constructor
  · rintro ⟨items, sent⟩
    unfold SubscriptionCall.msg at sent
    split at sent <;> cases sent
    exact ⟨_, List.cons_ne_nil _ _, rfl⟩
  · rintro ⟨l, nonempty, rfl⟩
    cases l with
    | nil => exact absurd rfl nonempty
    | cons item l => exact ⟨_, rfl⟩

theorem step_inverse_iff (observer : SystemStatusOsObserver Client Core)
    (call : SubscriptionCall Client) (inverse : MutualInverse observer) :
    MutualInverse (step observer call) ↔ FirstSubscription observer call := by
  have named (client : Client) := update_msg_iff call client
  unfold step
  split
  · rename_i silent
    refine iff_of_true inverse (fun l client update nonempty => ?_)
    obtain ⟨items, sent⟩ := (named client).mpr ⟨l, nonempty, update⟩
    rw [silent] at sent
    cases sent
  · rename_i msg sent
    rw [proc_inverse_iff observer msg inverse]
    constructor
    · intro fresh l client update nonempty
      obtain ⟨items, same⟩ := (named client).mpr ⟨l, nonempty, update⟩
      exact fresh client items (Option.some.inj (sent.symm.trans same))
    · rintro fresh client items rfl
      obtain ⟨l, nonempty, update⟩ := (named client).mp ⟨items, sent⟩
      exact fresh l client update nonempty

theorem step_no_empty_sets (observer : SystemStatusOsObserver Client Core)
    (call : SubscriptionCall Client) (full : NoEmptySets observer) :
    NoEmptySets (step observer call) := by
  unfold step
  split
  · exact full
  · exact proc_no_empty_sets observer _ full

/-- After `updateSubscription` the client has exactly the items of the list,
whatever it had before. -/
theorem update_sets_the_items (observer : SystemStatusOsObserver Client Core)
    (l : List DataItemId) (client : Client) (nonempty : l ≠ []) (item : DataItemId) :
    (step observer (.updateSubscription l (some client))).mClientToDataItems.Holds client item ↔
      item ∈ l := by
  cases l with
  | nil => exact absurd rfl nonempty
  | cons head rest =>
    refine (proc_client_items observer client item
      (.handleUpdateSubscriptionReq client (.ofList (head :: rest)))).trans ?_
    simp only [clientItemsAfter, ↓reduceIte, UnorderedSet.mem_ofList]

/-- The maps stay mutual inverses without empty sets, and each update leaves its
client with exactly the listed items, in precisely the runs in which no client
replaces a subscription that it already has. -/
theorem maps_agree_iff_first_subscriptions (calls : List (SubscriptionCall Client)) :
    ((∀ observer ∈ states step (new : SystemStatusOsObserver Client Core) calls,
        MutualInverse observer ∧ NoEmptySets observer) ∧
      ∀ taken ∈ steps step (new : SystemStatusOsObserver Client Core) calls, ∀ l client,
        taken.2 = .updateSubscription l (some client) → l ≠ [] → ∀ item,
          ((step taken.1 taken.2).mClientToDataItems.Holds client item ↔ item ∈ l)) ↔
    ∀ taken ∈ steps step (new : SystemStatusOsObserver Client Core) calls,
      FirstSubscription taken.1 taken.2 := by
  have initial : MutualInverse (new : SystemStatusOsObserver Client Core) := fun client item =>
    iff_of_false (not_holds_new client item) (not_holds_new item client)
  have full : ∀ observer ∈ states step (new : SystemStatusOsObserver Client Core) calls,
      NoEmptySets observer :=
    invariant_states step_no_empty_sets calls ⟨noEmptyEntry_new, noEmptyEntry_new⟩
  have updated : ∀ taken ∈ steps step (new : SystemStatusOsObserver Client Core) calls,
      ∀ l client, taken.2 = .updateSubscription l (some client) → l ≠ [] → ∀ item,
        ((step taken.1 taken.2).mClientToDataItems.Holds client item ↔ item ∈ l) := by
    rintro ⟨observer, _⟩ _ l client rfl nonempty item
    exact update_sets_the_items observer l client nonempty item
  have exactly_first := always_iff_each_step (fun _ _ (_ : True) => trivial)
    (fun (observer : SystemStatusOsObserver Client Core) call _ => step_inverse_iff observer call)
    calls trivial initial
  rw [← exactly_first]
  exact ⟨fun both observer visited => (both.1 observer visited).1,
    fun inverse => ⟨fun observer visited => ⟨inverse observer visited, full observer visited⟩,
      updated⟩⟩

/-- A client that subscribes to an item and then updates to the same item is no
longer among the clients of that item. -/
theorem repeated_update_breaks_the_inverse :
    ¬ ∀ observer ∈ states step (new : SystemStatusOsObserver Nat Unit)
        [.subscribe [.tac] (some 7), .updateSubscription [.tac] (some 7)],
      MutualInverse observer ∧ NoEmptySets observer := by
  intro agree
  have last := (agree _ (List.mem_cons_of_mem _ (List.mem_cons_of_mem _ List.mem_cons_self))).1
  have crossed := last 7 .tac
  revert crossed
  decide

end Msm8917Common.SubscriptionProofs
