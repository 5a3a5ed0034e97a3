import Msm8917Common.SubscriptionProofs

/-! What the framework is subscribed to, against what the clients want. The
observer tells the framework only of items that appear in its map or vanish from
it, and clients that requested data once are in that map like subscribers. -/
namespace Msm8917Common.FrameworkMirrorProofs
open Runs SystemStatusOsObserver LocUnorderedSetMap SubscriptionProofs

/-- The items subscribed at the framework, after one more call. -/
def frameworkAfter (items : UnorderedSet DataItemId) :
    ObserverCall Client Core → UnorderedSet DataItemId
  | .subscribe l => items.insertAll l
  | .unsubscribe l => l.foldl UnorderedSet.erase items
  | .requestData _ => items
  | .notify _ _ => items

section Calls
variable {observer : SystemStatusOsObserver Client Core} {items : UnorderedSet DataItemId}
  {framework : UnorderedSet DataItemId} {item : DataItemId}

private theorem mem_containerTransfer : item ∈ containerTransfer items ↔ item ∈ items :=
  List.mem_reverse

private theorem mem_eraseAll (l : List DataItemId) (framework : UnorderedSet DataItemId) :
    item ∈ l.foldl UnorderedSet.erase framework ↔ item ∈ framework ∧ item ∉ l := by
  induction l generalizing framework with
  | nil => simp
  | cons head rest ih =>
    rw [List.foldl_cons, ih, UnorderedSet.mem_erase, List.mem_cons, not_or]
    exact ⟨fun ⟨⟨apart, held⟩, later⟩ => ⟨held, apart, later⟩,
      fun ⟨held, apart, later⟩ => ⟨⟨apart, held⟩, later⟩⟩

/-- Where the framework is not told, nothing of it could have been. -/
private theorem nothing_of_silent
    (silent : ¬ (observer.mSubscriptionObj && !items.isEmpty) = true) (item : DataItemId) :
    ¬ (observer.mSubscriptionObj = true ∧ item ∈ items) := by
  rintro ⟨installed, member⟩
  have some_item := UnorderedSet.isEmpty_false_iff.mpr ⟨item, member⟩
  rw [installed, some_item] at silent
  exact silent rfl

private theorem mem_after_subscribe :
    item ∈ (observer.toFramework .subscribe items).foldl frameworkAfter framework ↔
      item ∈ framework ∨ observer.mSubscriptionObj = true ∧ item ∈ items := by
  unfold toFramework
  split
  · next told =>
    rw [Bool.and_eq_true] at told
    simp only [List.foldl_cons, List.foldl_nil, frameworkAfter, UnorderedSet.mem_insertAll,
      mem_containerTransfer, told.1, true_and]
  · next silent =>
    have nothing := nothing_of_silent silent item
    simp only [List.foldl_nil, nothing, or_false]

private theorem mem_after_unsubscribe :
    item ∈ (observer.toFramework .unsubscribe items).foldl frameworkAfter framework ↔
      item ∈ framework ∧ ¬ (observer.mSubscriptionObj = true ∧ item ∈ items) := by
  unfold toFramework
  split
  · next told =>
    rw [Bool.and_eq_true] at told
    simp only [List.foldl_cons, List.foldl_nil, frameworkAfter, mem_eraseAll,
      mem_containerTransfer, told.1, true_and]
  · next silent =>
    have nothing := nothing_of_silent silent item
    simp only [List.foldl_nil, nothing, not_false_eq_true, and_true]

private theorem after_requestData :
    (observer.toFramework .requestData items).foldl frameworkAfter framework = framework := by
  unfold toFramework
  split <;> rfl

private theorem after_cached (client : Client) :
    (observer.sendCachedDataItems items client).foldl frameworkAfter framework = framework := by
  simp only [sendCachedDataItems]
  split <;> rfl

end Calls

variable [DecidableEq Client]

/-- Whether the latest operation of each client on each item subscribes it. The
parameter says whether a request for data takes the place of a subscription that
its client had. -/
def wantedAfter (requestReplaces : Bool) (wanted : Client → DataItemId → Bool) :
    SubscriptionMsg Client → Client → DataItemId → Bool
  | .setSubsObj, probe, item => wanted probe item
  | .handleSubscribeReq client items mToRequestData, probe, item =>
    if probe = client ∧ item ∈ items then
      if mToRequestData then !requestReplaces && wanted probe item else true
    else wanted probe item
  | .handleUpdateSubscriptionReq client items, probe, item =>
    if probe = client ∧ item ∈ items then true else wanted probe item
  | .handleUnsubscribeReq client items, probe, item =>
    if probe = client ∧ item ∈ items then false else wanted probe item
  | .handleUnsubscribeAllReq client, probe, item =>
    if probe = client then false else wanted probe item

/-- The observer, with what is subscribed at the framework and what the clients
want. -/
structure MirrorWorld (Client Core : Type*) where
  observer : SystemStatusOsObserver Client Core
  framework : UnorderedSet DataItemId
  wanted : Client → DataItemId → Bool

namespace MirrorWorld

def start : MirrorWorld Client Core := ⟨new, .empty, fun _ _ => false⟩

def step (requestReplaces : Bool) (world : MirrorWorld Client Core)
    (call : SubscriptionCall Client) : MirrorWorld Client Core :=
  match call.msg with
  | none => world
  | some msg =>
    { observer := (world.observer.proc msg).1
      framework := (world.observer.proc msg).2.foldl frameworkAfter world.framework
      wanted := wantedAfter requestReplaces world.wanted msg }

end MirrorWorld

/-- Some client wants the item. -/
def Wanted (wanted : Client → DataItemId → Bool) (item : DataItemId) : Prop :=
  ∃ client, wanted client item = true

/-- Once the framework object is there, it has exactly the wanted items. -/
def Mirrors (world : MirrorWorld Client Core) : Prop :=
  world.observer.mSubscriptionObj = true →
    ∀ item, item ∈ world.framework ↔ Wanted world.wanted item

/-- An update lists only items that its client does not have. -/
def DisjointUpdate (world : MirrorWorld Client Core) (call : SubscriptionCall Client) : Prop :=
  ∀ l client, call = .updateSubscription l (some client) →
    ∀ item ∈ l, ¬ world.observer.mClientToDataItems.Holds client item

/-- The client gives up a wanted item: either another client wants it too, or no
other client is recorded for it, and the client itself still has it. -/
def GivesUpWhole (world : MirrorWorld Client Core) (client : Client) (item : DataItemId) : Prop :=
  world.wanted client item = true → (∃ other ≠ client, world.wanted other item = true) ∨
    world.observer.mClientToDataItems.Holds client item ∧
      ∀ other, world.observer.mDataItemToClients.Holds item other → other = client

/-- Every recorded client of the item could as well not be there: someone wants
the item. -/
def RecordedIsWanted (world : MirrorWorld Client Core) (item : DataItemId) : Prop :=
  (∃ client, world.observer.mDataItemToClients.Holds item client) → Wanted world.wanted item

/-- No client that only requested data stands in the way of what the message has
to tell the framework. -/
def RequestsStandAside (requestReplaces : Bool) (world : MirrorWorld Client Core) :
    SubscriptionMsg Client → Prop
  | .setSubsObj => ∀ item, RecordedIsWanted world item
  | .handleSubscribeReq client items mToRequestData =>
    world.observer.mSubscriptionObj = true → ∀ item ∈ items,
      if mToRequestData then requestReplaces = true → world.wanted client item = true →
        ∃ other ≠ client, world.wanted other item = true
      else RecordedIsWanted world item
  | .handleUpdateSubscriptionReq _ items =>
    world.observer.mSubscriptionObj = true → ∀ item ∈ items, RecordedIsWanted world item
  | .handleUnsubscribeReq client items =>
    world.observer.mSubscriptionObj = true → ∀ item ∈ items, GivesUpWhole world client item
  | .handleUnsubscribeAllReq client =>
    world.observer.mSubscriptionObj = true → ∀ item, GivesUpWhole world client item

/-- The same for a call, which may send no message. -/
def CallStandsAside (requestReplaces : Bool) (world : MirrorWorld Client Core)
    (call : SubscriptionCall Client) : Prop :=
  ∀ msg, call.msg = some msg → RequestsStandAside requestReplaces world msg

/-- Every wanted item is recorded for its client, and before the framework object
is there the framework has nothing. -/
structure Recorded (world : MirrorWorld Client Core) : Prop where
  full : NoEmptySets world.observer
  recorded : ∀ client item, world.wanted client item = true →
    world.observer.mDataItemToClients.Holds item client
  uninstalled : world.observer.mSubscriptionObj = false → ∀ item, item ∉ world.framework

section Framework
variable {observer : SystemStatusOsObserver Client Core} {framework : UnorderedSet DataItemId}
  {item : DataItemId}

/-- The item vanishes from the map when the client is taken out of it. -/
def Vanishes (observer : SystemStatusOsObserver Client Core) (client : Client)
    (item : DataItemId) : Prop :=
  observer.mClientToDataItems.Holds client item ∧
    (∃ other, observer.mDataItemToClients.Holds item other) ∧
      ∀ other, observer.mDataItemToClients.Holds item other → other = client

/-- What a message leaves at the framework, for an update that is disjoint. -/
def frameworkItemsAfter (observer : SystemStatusOsObserver Client Core)
    (framework : UnorderedSet DataItemId) (item : DataItemId) : SubscriptionMsg Client → Prop
  | .setSubsObj =>
    item ∈ framework ∨ ∃ client, observer.mDataItemToClients.Holds item client
  | .handleSubscribeReq _ items mToRequestData =>
    item ∈ framework ∨ mToRequestData = false ∧ observer.mSubscriptionObj = true ∧
      item ∈ items ∧ ¬ ∃ client, observer.mDataItemToClients.Holds item client
  | .handleUpdateSubscriptionReq _ items =>
    item ∈ framework ∨ observer.mSubscriptionObj = true ∧
      item ∈ items ∧ ¬ ∃ client, observer.mDataItemToClients.Holds item client
  | .handleUnsubscribeReq client items =>
    item ∈ framework ∧
      ¬ (observer.mSubscriptionObj = true ∧ item ∈ items ∧ Vanishes observer client item)
  | .handleUnsubscribeAllReq client =>
    item ∈ framework ∧ ¬ (observer.mSubscriptionObj = true ∧ Vanishes observer client item)

private theorem setSubsObj_framework (full : NoEmptySets observer) :
    item ∈ (observer.proc .setSubsObj).2.foldl frameworkAfter framework ↔
      frameworkItemsAfter observer framework item .setSubsObj := by
  simp only [proc, setSubsObj, frameworkItemsAfter, ← full.2.mem_getKeys]
  split
  · next nothing =>
    simp only [List.foldl_nil, isEmpty_iff.mp nothing item, or_false]
  · simp only [List.foldl_cons, List.foldl_nil, frameworkAfter, UnorderedSet.mem_insertAll,
      mem_containerTransfer]

private theorem handleSubscribeReq_framework (full : NoEmptySets observer) (client : Client)
    (items : UnorderedSet DataItemId) (mToRequestData : Bool) :
    item ∈ (observer.proc (.handleSubscribeReq client items mToRequestData)).2.foldl
        frameworkAfter framework ↔
      frameworkItemsAfter observer framework item
        (.handleSubscribeReq client items mToRequestData) := by
  have told : item ∈ (observer.mDataItemToClients.addKeys items (.singleton client) .empty).2 ↔
      item ∈ items ∧ ¬ ∃ other, observer.mDataItemToClients.Holds item other := by
    rw [addKeys_newKeys full.2 (UnorderedSet.isEmpty_singleton client)]
    simp only [UnorderedSet.not_mem_empty, false_or]
  simp only [proc, handleSubscribeReq, List.foldl_append, after_cached, frameworkItemsAfter]
  cases mToRequestData with
  | true => simp only [if_true, after_requestData, Bool.true_eq_false, false_and, or_false]
  | false =>
    simp only [Bool.false_eq_true, if_false, true_and]
    rw [mem_after_subscribe, told]

/-- A disjoint update takes no item from anyone: what it removes is nothing, and
what it adds is new to its client. -/
private theorem handleUpdateSubscriptionReq_framework (full : NoEmptySets observer)
    (client : Client) (items : UnorderedSet DataItemId)
    (disjoint : ∀ item ∈ items, ¬ observer.mClientToDataItems.Holds client item) :
    item ∈ (observer.proc (.handleUpdateSubscriptionReq client items)).2.foldl
        frameworkAfter framework ↔
      frameworkItemsAfter observer framework item (.handleUpdateSubscriptionReq client items) := by
  have fresh := disjoint item
  have spared (other : Client) :
      (observer.mDataItemToClients.trimOrRemove
        (observer.mClientToDataItems.update client items).2.1 (.singleton client)
        .empty .empty).1.Holds item other ↔ observer.mDataItemToClients.Holds item other := by
    rw [trimOrRemove_holds, update_gone]
    exact and_iff_left fun shared => fresh shared.1.2 shared.1.1
  have told : item ∈ (LocUnorderedSetMap.addKeys
      (observer.mDataItemToClients.trimOrRemove
        (observer.mClientToDataItems.update client items).2.1 (.singleton client)
        .empty .empty).1
      (observer.mClientToDataItems.update client items).2.2 (.singleton client) .empty).2 ↔
      item ∈ items ∧ ¬ ∃ other, observer.mDataItemToClients.Holds item other := by
    rw [addKeys_newKeys (trimOrRemove_full full.2) (UnorderedSet.isEmpty_singleton client), update_left]
    simp only [spared, UnorderedSet.not_mem_empty, false_or]
    exact and_congr_left fun _ => and_iff_left_of_imp fresh
  have none_gone : item ∉ (observer.mDataItemToClients.trimOrRemove
      (observer.mClientToDataItems.update client items).2.1 (.singleton client)
      .empty .empty).2.1 := by
    rw [trimOrRemove_goneKeys full.2, update_gone]
    rintro (old | ⟨shared, _⟩)
    · exact UnorderedSet.not_mem_empty item old
    · exact fresh shared.2 shared.1
  simp only [proc, handleUpdateSubscriptionReq, List.foldl_append, after_cached,
    frameworkItemsAfter]
  rw [mem_after_unsubscribe, mem_after_subscribe, told]
  exact and_iff_left fun gone => none_gone gone.2

private theorem handleUnsubscribeReq_framework (full : NoEmptySets observer) (client : Client)
    (items : UnorderedSet DataItemId) :
    item ∈ (observer.proc (.handleUnsubscribeReq client items)).2.foldl frameworkAfter framework ↔
      frameworkItemsAfter observer framework item (.handleUnsubscribeReq client items) := by
  have told : item ∈ (observer.mDataItemToClients.trimOrRemove
      (observer.mClientToDataItems.trimOrRemove (.singleton client) items .empty .empty).2.2
      (.singleton client) .empty .empty).2.1 ↔ item ∈ items ∧ Vanishes observer client item := by
    rw [trimOrRemove_goneKeys full.2, trimOrRemove_gone]
    simp only [UnorderedSet.not_mem_empty, false_or, UnorderedSet.mem_singleton, exists_eq_left,
      and_assoc, Vanishes]
  simp only [proc, handleUnsubscribeReq, frameworkItemsAfter]
  rw [mem_after_unsubscribe, told]

private theorem handleUnsubscribeAllReq_framework (full : NoEmptySets observer)
    (client : Client) :
    item ∈ (observer.proc (.handleUnsubscribeAllReq client)).2.foldl frameworkAfter framework ↔
      frameworkItemsAfter observer framework item (.handleUnsubscribeAllReq client) := by
  simp only [proc, handleUnsubscribeAllReq, frameworkItemsAfter]
  split
  · next nothing =>
    have absent := UnorderedSet.isEmpty_iff.mp nothing item
    exact (and_iff_left fun both => absent both.2.1).symm
  · rw [mem_after_unsubscribe, trimOrRemove_goneKeys full.2]
    simp only [UnorderedSet.not_mem_empty, false_or, UnorderedSet.mem_singleton]
    rfl

theorem proc_framework (msg : SubscriptionMsg Client) (full : NoEmptySets observer)
    (disjoint : ∀ client items, msg = .handleUpdateSubscriptionReq client items →
      ∀ item ∈ items, ¬ observer.mClientToDataItems.Holds client item) :
    item ∈ (observer.proc msg).2.foldl frameworkAfter framework ↔
      frameworkItemsAfter observer framework item msg := by
  cases msg with
  | setSubsObj => exact setSubsObj_framework full
  | handleSubscribeReq client items mToRequestData =>
    exact handleSubscribeReq_framework full client items mToRequestData
  | handleUpdateSubscriptionReq client items =>
    exact handleUpdateSubscriptionReq_framework full client items (disjoint client items rfl)
  | handleUnsubscribeReq client items => exact handleUnsubscribeReq_framework full client items
  | handleUnsubscribeAllReq client => exact handleUnsubscribeAllReq_framework full client

end Framework

section Step
variable {requestReplaces : Bool} {world : MirrorWorld Client Core} {item : DataItemId}

private theorem proc_installed (observer : SystemStatusOsObserver Client Core)
    (msg : SubscriptionMsg Client) : (observer.proc msg).1.mSubscriptionObj = true ↔
      msg = .setSubsObj ∨ observer.mSubscriptionObj = true := by
  cases msg with
  | setSubsObj =>
    simp only [proc, setSubsObj, true_or, iff_true]
    split <;> rfl
  | handleUnsubscribeAllReq client =>
    simp only [proc, handleUnsubscribeAllReq, reduceCtorEq, false_or]
    split <;> rfl
  | _ => simp only [reduceCtorEq, false_or]; rfl

private theorem wanted_after_update (requestReplaces : Bool)
    (wanted : Client → DataItemId → Bool) (client : Client) (items : UnorderedSet DataItemId) :
    Wanted (wantedAfter requestReplaces wanted (.handleUpdateSubscriptionReq client items)) item ↔
      Wanted wanted item ∨ item ∈ items := by
  simp only [Wanted, wantedAfter, Bool.if_true_left, Bool.or_eq_true, decide_eq_true_eq]
  constructor
  · rintro ⟨probe, ⟨_, listed⟩ | held⟩
    · exact .inr listed
    · exact .inl ⟨probe, held⟩
  · rintro (⟨probe, held⟩ | listed)
    · exact ⟨probe, .inr held⟩
    · exact ⟨client, .inl ⟨rfl, listed⟩⟩

private theorem wanted_after_subscribe (wanted : Client → DataItemId → Bool) (client : Client)
    (items : UnorderedSet DataItemId) :
    Wanted (wantedAfter requestReplaces wanted (.handleSubscribeReq client items false)) item ↔
      Wanted wanted item ∨ item ∈ items :=
  wanted_after_update requestReplaces wanted client items

private theorem wanted_after_unsubscribe (wanted : Client → DataItemId → Bool) (client : Client)
    (items : UnorderedSet DataItemId) :
    Wanted (wantedAfter requestReplaces wanted (.handleUnsubscribeReq client items)) item ↔
      if item ∈ items then ∃ other ≠ client, wanted other item = true
      else Wanted wanted item := by
  split
  · next listed => simp [Wanted, wantedAfter, listed]
  · next spared => simp [Wanted, wantedAfter, spared]

private theorem wanted_after_unsubscribeAll (wanted : Client → DataItemId → Bool)
    (client : Client) :
    Wanted (wantedAfter requestReplaces wanted (.handleUnsubscribeAllReq client)) item ↔
      ∃ other ≠ client, wanted other item = true := by
  simp [Wanted, wantedAfter]

/-- A request can only take an item away, from its own client. -/
private theorem wanted_after_request (wanted : Client → DataItemId → Bool) (client : Client)
    (items : UnorderedSet DataItemId) :
    (Wanted wanted item ↔
        Wanted (wantedAfter requestReplaces wanted (.handleSubscribeReq client items true)) item) ↔
      (item ∈ items → requestReplaces = true → wanted client item = true →
        ∃ other ≠ client, wanted other item = true) := by
  constructor
  · rintro inStep listed rfl wants
    obtain ⟨other, left⟩ := inStep.mp ⟨client, wants⟩
    have apart : other ≠ client := by
      rintro rfl
      simp [wantedAfter, listed] at left
    exact ⟨other, apart, by simpa [wantedAfter, apart] using left⟩
  · intro shared
    constructor
    · rintro ⟨probe, wants⟩
      by_cases taken : probe = client ∧ item ∈ items ∧ requestReplaces = true
      · obtain ⟨rfl, listed, replaced⟩ := taken
        obtain ⟨other, apart, left⟩ := shared listed replaced wants
        exact ⟨other, by simpa [wantedAfter, apart] using left⟩
      · refine ⟨probe, ?_⟩
        simp only [wantedAfter]
        split
        · next own => simpa [wants] using fun replaced => taken ⟨own.1, own.2, replaced⟩
        · exact wants
    · rintro ⟨probe, left⟩
      simp only [wantedAfter] at left
      split at left
      · exact ⟨probe, (Bool.and_eq_true_iff.mp left).2⟩
      · exact ⟨probe, left⟩

omit [DecidableEq Client] in
/-- Where a client comes to want an item, the framework is told exactly if nobody
is recorded for it. -/
private theorem told_iff {items : UnorderedSet DataItemId} :
    ((Wanted world.wanted item ∨ item ∈ items ∧
          ¬ ∃ client, world.observer.mDataItemToClients.Holds item client) ↔
        Wanted world.wanted item ∨ item ∈ items) ↔
      (item ∈ items → RecordedIsWanted world item) := by
  constructor
  · intro inStep listed known
    exact (inStep.mpr (.inr listed)).elim id fun told => absurd known told.2
  · intro wanted
    refine or_congr_right' fun unwanted => and_iff_left_of_imp fun listed known => ?_
    exact unwanted (wanted listed known)

/-- Where a client gives up an item, the framework and the clients stay in step
exactly if it does so whole. -/
private theorem gives_up_iff (recorded : Recorded world) (client : Client) :
    (Wanted world.wanted item ∧ ¬ Vanishes world.observer client item ↔
        ∃ other ≠ client, world.wanted other item = true) ↔
      GivesUpWhole world client item := by
  constructor
  · intro inStep wants
    by_cases shared : ∃ other ≠ client, world.wanted other item = true
    · exact .inl shared
    · have gone : Vanishes world.observer client item := by
        by_contra stays
        exact shared (inStep.mp ⟨⟨client, wants⟩, stays⟩)
      exact .inr ⟨gone.1, gone.2.2⟩
  · intro whole
    constructor
    · rintro ⟨⟨other, wants⟩, stays⟩
      by_cases same : other = client
      · subst same
        rcases whole wants with shared | ⟨held, sole⟩
        · exact shared
        · exact absurd ⟨held, ⟨other, recorded.recorded other item wants⟩, sole⟩ stays
      · exact ⟨other, same, wants⟩
    · rintro ⟨other, apart, wants⟩
      refine ⟨⟨other, wants⟩, fun gone => apart ?_⟩
      exact gone.2.2 other (recorded.recorded other item wants)

/-- The update message of a call carries what the call lists. -/
private theorem update_msg_disjoint {call : SubscriptionCall Client} {msg : SubscriptionMsg Client}
    (disjoint : DisjointUpdate world call) (sent : call.msg = some msg) :
    ∀ client items, msg = .handleUpdateSubscriptionReq client items →
      ∀ item ∈ items, ¬ world.observer.mClientToDataItems.Holds client item := by
  rintro client items rfl item listed
  unfold SubscriptionCall.msg at sent
  split at sent <;> cases sent
  exact disjoint _ client rfl item (UnorderedSet.mem_ofList.mp listed)

private theorem wanted_recorded (recorded : Recorded world) (msg : SubscriptionMsg Client)
    (disjoint : ∀ client items, msg = .handleUpdateSubscriptionReq client items →
      ∀ item ∈ items, ¬ world.observer.mClientToDataItems.Holds client item)
    (probe : Client) (wants : wantedAfter requestReplaces world.wanted msg probe item = true) :
    (world.observer.proc msg).1.mDataItemToClients.Holds item probe := by
  rw [proc_item_clients]
  have before := recorded.recorded probe item
  cases msg with
  | setSubsObj => exact before wants
  | handleSubscribeReq client items mToRequestData =>
    simp only [wantedAfter] at wants
    split at wants
    · next own => exact .inr own
    · exact .inl (before wants)
  | handleUpdateSubscriptionReq client items =>
    simp only [wantedAfter] at wants
    have fresh := disjoint client items rfl item
    split at wants
    · next own => exact .inr ⟨own.1, own.2, fresh own.2⟩
    · next others => exact .inl ⟨before wants, fun own => others ⟨own.1, own.2.1⟩⟩
  | handleUnsubscribeReq client items =>
    simp only [wantedAfter] at wants
    split at wants
    · cases wants
    · next others => exact ⟨before wants, fun own => others ⟨own.1, own.2.1⟩⟩
  | handleUnsubscribeAllReq client =>
    simp only [wantedAfter] at wants
    split at wants
    · cases wants
    · next others => exact ⟨before wants, fun own => others own.1⟩

private theorem step_recorded (call : SubscriptionCall Client) (recorded : Recorded world)
    (disjoint : DisjointUpdate world call) : Recorded (world.step requestReplaces call) := by
  unfold MirrorWorld.step
  split
  · exact recorded
  · next msg sent =>
    have apart := update_msg_disjoint disjoint sent
    refine ⟨proc_no_empty_sets world.observer msg recorded.full,
      fun probe item wants => wanted_recorded recorded msg apart probe wants,
      fun uninstalled item held => ?_⟩
    have silent : msg ≠ .setSubsObj ∧ world.observer.mSubscriptionObj ≠ true := by
      rw [← not_or, ← proc_installed, uninstalled]
      exact Bool.false_ne_true
    have none_before := recorded.uninstalled (by simpa using silent.2) item
    rw [proc_framework msg recorded.full apart] at held
    cases msg with
    | setSubsObj => exact silent.1 rfl
    | handleSubscribeReq client items mToRequestData =>
      exact held.elim none_before fun told => silent.2 told.2.1
    | handleUpdateSubscriptionReq client items =>
      exact held.elim none_before fun told => silent.2 told.1
    | handleUnsubscribeReq client items => exact none_before held.1
    | handleUnsubscribeAllReq client => exact none_before held.1

private theorem step_mirrors_iff (call : SubscriptionCall Client) (recorded : Recorded world)
    (mirrors : Mirrors world) (disjoint : DisjointUpdate world call) :
    Mirrors (world.step requestReplaces call) ↔ CallStandsAside requestReplaces world call := by
  unfold MirrorWorld.step CallStandsAside
  split
  · next silent => exact iff_of_true mirrors fun msg sent => by rw [silent] at sent; cases sent
  · next msg sent =>
    have apart := update_msg_disjoint disjoint sent
    simp only [sent, Option.some.injEq, forall_eq', Mirrors, proc_installed,
      proc_framework msg recorded.full apart]
    cases msg with
    | setSubsObj =>
      have before (item : DataItemId) : item ∈ world.framework → Wanted world.wanted item := by
        intro held
        cases installed : world.observer.mSubscriptionObj with
        | true => exact (mirrors installed item).mp held
        | false => exact absurd held (recorded.uninstalled installed item)
      have listed (item : DataItemId) : Wanted world.wanted item →
          ∃ client, world.observer.mDataItemToClients.Holds item client :=
        fun ⟨client, wants⟩ => ⟨client, recorded.recorded client item wants⟩
      simp only [true_or, true_implies, frameworkItemsAfter]
      refine forall_congr' fun item => ?_
      exact ⟨fun inStep known => inStep.mp (.inr known), fun known =>
        ⟨fun told => told.elim (before item) known, fun wants => .inr (listed item wants)⟩⟩
    | handleSubscribeReq client items mToRequestData =>
      simp only [reduceCtorEq, false_or, RequestsStandAside, frameworkItemsAfter]
      refine forall_congr' fun installed => forall_congr' fun item => ?_
      rw [mirrors installed item]
      cases mToRequestData with
      | false =>
        rw [wanted_after_subscribe]
        simp only [installed, true_and, Bool.false_eq_true, if_false]
        exact told_iff
      | true =>
        simp only [Bool.true_eq_false, false_and, or_false, if_true]
        exact wanted_after_request world.wanted client items
    | handleUpdateSubscriptionReq client items =>
      simp only [reduceCtorEq, false_or, RequestsStandAside, frameworkItemsAfter]
      refine forall_congr' fun installed => forall_congr' fun item => ?_
      rw [wanted_after_update, mirrors installed item]
      simp only [installed, true_and]
      exact told_iff
    | handleUnsubscribeReq client items =>
      simp only [reduceCtorEq, false_or, RequestsStandAside, frameworkItemsAfter]
      refine forall_congr' fun installed => forall_congr' fun item => ?_
      rw [wanted_after_unsubscribe, mirrors installed item]
      by_cases listed : item ∈ items
      · simp only [installed, listed, true_and, if_true, true_implies]
        exact gives_up_iff recorded client
      · simp only [listed, false_and, and_false, not_false_eq_true, and_true, if_false,
          false_implies]
    | handleUnsubscribeAllReq client =>
      simp only [reduceCtorEq, false_or, RequestsStandAside, frameworkItemsAfter]
      refine forall_congr' fun installed => forall_congr' fun item => ?_
      rw [wanted_after_unsubscribeAll, mirrors installed item]
      simp only [installed, true_and]
      exact gives_up_iff recorded client

end Step

private theorem start_recorded : Recorded (.start : MirrorWorld Client Core) where
  full := ⟨noEmptyEntry_new, noEmptyEntry_new⟩
  recorded _ _ wants := by cases wants
  uninstalled _ item := UnorderedSet.not_mem_empty item

/-- In every run whose updates are disjoint, and with either reading of a request,
the framework has exactly the wanted items from its installation on, exactly if no
client that only requested data stands in the way of any message, and no client
gives up an item that an earlier update made it lose. -/
theorem framework_mirrors_iff_requests_stand_aside (requestReplaces : Bool)
    (calls : List (SubscriptionCall Client))
    (disjoint : ∀ taken ∈ steps (MirrorWorld.step requestReplaces)
      (.start : MirrorWorld Client Core) calls, DisjointUpdate taken.1 taken.2) :
    (∀ world ∈ states (MirrorWorld.step requestReplaces) (.start : MirrorWorld Client Core) calls,
      Mirrors world) ↔
    ∀ taken ∈ steps (MirrorWorld.step requestReplaces) (.start : MirrorWorld Client Core) calls,
      CallStandsAside requestReplaces taken.1 taken.2 :=
  always_iff_each_step_under (fun _ call recorded apart => step_recorded call recorded apart)
    (fun _ call recorded mirrors apart => step_mirrors_iff call recorded mirrors apart)
    calls start_recorded (fun installed => by cases installed) disjoint

theorem mirror_of_a_disjoint_update :
    let calls : List (SubscriptionCall Nat) := [.setSubscriptionObj true,
      .subscribe [.tac] (some 7), .updateSubscription [.mccmnc] (some 7),
      .requestData [.model] (some 8)]
    (∀ world ∈ states (MirrorWorld.step false) (.start : MirrorWorld Nat Unit) calls,
      Mirrors world) ↔
    ∀ taken ∈ steps (MirrorWorld.step false) (.start : MirrorWorld Nat Unit) calls,
      CallStandsAside false taken.1 taken.2 := by
  apply framework_mirrors_iff_requests_stand_aside false _
  intro taken member l client update item listed
  simp only [steps, List.mem_cons, List.not_mem_nil, or_false] at member
  rcases member with rfl | rfl | rfl | rfl <;> cases update
  cases List.mem_singleton.mp listed
  decide

/-- A client subscribes to an item that another one only requested: the framework
never hears of it. -/
theorem requested_item_is_never_subscribed :
    ¬ ∃ requestReplaces, ∀ world ∈
      states (MirrorWorld.step requestReplaces) (.start : MirrorWorld Nat Unit)
        [.setSubscriptionObj true, .requestData [.tac] (some 8), .subscribe [.tac] (some 7)],
      Mirrors world := by
  rintro ⟨requestReplaces, mirrors⟩
  have last := mirrors _ (end_mem_states _ _)
  have told := (last (by cases requestReplaces <;> decide) .tac).mpr
    ⟨7, by cases requestReplaces <;> decide⟩
  revert told
  cases requestReplaces <;> decide

end Msm8917Common.FrameworkMirrorProofs
