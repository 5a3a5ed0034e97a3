import Msm8917Common.SubscriptionProofs

/-! `SystemStatusOsObserver::notify`: copies of the data items of a batch go into the cache,
and each client hears of the items of its subscription that were created or changed. The
items themselves are in a library, and `SystemStatus` has a say in which are recorded. -/
namespace Msm8917Common.DataItemNotify
open SystemStatusOsObserver SubscriptionProofs

/-- An `IDataItemCore`: its id and what the library keeps of it. -/
abbrev DataItem (Core : Type*) := DataItemId × Core

/-- The library: what it creates for an id, which may be null, and what `copy` leaves of an
item with this id and of `dataItemCopied`. -/
structure DataItemLibrary (Core : Type*) where
  createNewDataItem : DataItemId → Option Core
  copy : DataItemId → Core → Core → Core × Bool

/-- After a copy an item is like its source. Whether it was so before is reported. -/
def DataItemLibrary.Faithful (library : DataItemLibrary Core) : Prop :=
  ∀ id di src, (library.copy id di src).1 = src ∧
    ((library.copy id di src).2 = true ↔ di ≠ src)

/-- The observer with what `SystemStatus` has. -/
abbrev Observer (Client Core Status : Type*) := SystemStatusOsObserver Client Core × Status

section Cache
variable {Client Core Status : Type*} (library : DataItemLibrary Core)
  (eventDataItemNotify : Status → DataItem Core → Status × Bool)

/-- Whether the cache has something new of the item. -/
def updateCache (observer : Observer Client Core Status) (d : Option (DataItem Core)) :
    Observer Client Core Status × Bool :=
  match d with
  | none => (observer, false)
  | some d =>
    let (mSystemStatus, accepted) := eventDataItemNotify observer.2 d
    let observer := (observer.1, mSystemStatus)
    if accepted then
      match observer.1.mDataItemCache.lookup d.1 with
      | none =>
        match library.createNewDataItem d.1 with
        | none => (observer, false)
        | some dataitem =>
          (({ observer.1 with mDataItemCache :=
                observer.1.mDataItemCache.insert d.1 (library.copy d.1 dataitem d.2).1 },
            mSystemStatus), true)
      | some cached =>
        let (copied, dataItemUpdated) := library.copy d.1 cached d.2
        (({ observer.1 with mDataItemCache := observer.1.mDataItemCache.insert d.1 copied },
          mSystemStatus), dataItemUpdated)
    else (observer, false)

/-- One turn of the first loop of `HandleNotify::proc`. -/
def cacheItem (state : Observer Client Core Status × UnorderedSet DataItemId)
    (item : Option (DataItem Core)) : Observer Client Core Status × UnorderedSet DataItemId :=
  let (observer, updated) := updateCache library eventDataItemNotify state.1 item
  match updated, item with
  | true, some item => (observer, state.2.insert item.1)
  | _, _ => (observer, state.2)

section Clients
variable [DecidableEq Client]

/-- The second loop: who has one of the items in its subscription. -/
def clientsOf (observer : SystemStatusOsObserver Client Core)
    (dataItemIdsToBeSent : UnorderedSet DataItemId) : UnorderedSet Client :=
  dataItemIdsToBeSent.elems.foldl (fun clientSet each =>
    match observer.mDataItemToClients.getValSetPtr each with
    | none => clientSet
    | some clients => clientSet.insertAll clients.elems) .empty

/-- The set of one client, with the items that are not to be sent erased one by one. -/
def itemsForClient (observer : SystemStatusOsObserver Client Core)
    (dataItemIdsToBeSent : UnorderedSet DataItemId) (client : Client) : UnorderedSet DataItemId :=
  let dataItemIdsForThisClient := observer.mClientToDataItems.getValSet client
  dataItemIdsForThisClient.elems.foldl (fun set itr =>
    if itr ∈ dataItemIdsToBeSent then set else set.erase itr) dataItemIdsForThisClient

/-- `HandleNotify::proc`. -/
def handleNotify (observer : Observer Client Core Status) (mDiVec : List (Option (DataItem Core))) :
    Observer Client Core Status × List (ObserverCall Client Core) :=
  let (observer, dataItemIdsToBeSent) :=
    mDiVec.foldl (cacheItem library eventDataItemNotify) (observer, .empty)
  (observer, (clientsOf observer.1 dataItemIdsToBeSent).elems.flatMap fun client =>
    observer.1.sendCachedDataItems (itemsForClient observer.1 dataItemIdsToBeSent client) client)

/-- The vector of the message. It is made with as many null pointers as there are items, and
the copies come behind them. -/
def dataItemVec (dlist : List (DataItem Core)) : List (Option (DataItem Core)) :=
  List.replicate dlist.length none ++ dlist.filterMap fun each =>
    (library.createNewDataItem each.1).map fun di =>
      some (each.1, (library.copy each.1 di each.2).1)

/-- The call, with the processing of the message it sends. -/
def notify (observer : Observer Client Core Status) (dlist : List (DataItem Core)) :
    Observer Client Core Status × List (ObserverCall Client Core) :=
  if dlist = [] then (observer, [])
  else handleNotify library eventDataItemNotify observer (dataItemVec library dlist)

end Clients

/-! The cache -/

/-- The items that the library can make copies of. -/
def created (dlist : List (DataItem Core)) : List (DataItem Core) :=
  dlist.filter fun each => (library.createNewDataItem each.1).isSome

/-- `SystemStatus` records all of these items, one after the other. -/
def Accepted : Status → List (DataItem Core) → Prop
  | _, [] => True
  | mSystemStatus, d :: rest =>
    (eventDataItemNotify mSystemStatus d).2 = true ∧
      Accepted (eventDataItemNotify mSystemStatus d).1 rest

/-- The last value for an id, if there is one. -/
def lastValue (id : DataItemId) (items : List (DataItem Core)) : Option Core :=
  (items.reverse.find? fun d => d.1 = id).map Prod.snd

theorem lastValue_cons (id : DataItemId) (d : DataItem Core) (items : List (DataItem Core)) :
    lastValue id (d :: items) = (lastValue id items).or (if d.1 = id then some d.2 else none) := by
  rw [lastValue, List.reverse_cons, List.find?_append, lastValue, Option.map_or]
  by_cases same : d.1 = id <;> simp [same]

variable {library eventDataItemNotify} {observer : Observer Client Core Status}
  {items : List (DataItem Core)} {d : DataItem Core} {ids : UnorderedSet DataItemId}

/-- An item that is accepted is in the cache afterwards. It is reported where the cache had
something else or nothing. -/
theorem updateCache_accepted (faithful : library.Faithful)
    (creatable : (library.createNewDataItem d.1).isSome)
    (accepted : (eventDataItemNotify observer.2 d).2 = true) :
    ∃ updated, updateCache library eventDataItemNotify observer (some d) =
        (({ observer.1 with mDataItemCache := observer.1.mDataItemCache.insert d.1 d.2 },
          (eventDataItemNotify observer.2 d).1), updated) ∧
      (updated = true ↔ observer.1.mDataItemCache.lookup d.1 ≠ some d.2) := by
  simp only [updateCache, accepted, if_true]
  cases cached : observer.1.mDataItemCache.lookup d.1 with
  | none =>
    obtain ⟨dataitem, made⟩ := Option.isSome_iff_exists.mp creatable
    rw [made]
    simp only [(faithful d.1 dataitem d.2).1]
    exact ⟨true, rfl, by simp⟩
  | some before =>
    obtain ⟨copied, reported⟩ := faithful d.1 before d.2
    refine ⟨(library.copy d.1 before d.2).2, ?_, ?_⟩
    · dsimp only
      rw [copied]
    · rw [reported, ne_eq, ne_eq, Option.some.injEq]

/-- The first loop on items that are there. -/
def cacheItems (library : DataItemLibrary Core)
    (eventDataItemNotify : Status → DataItem Core → Status × Bool)
    (state : Observer Client Core Status × UnorderedSet DataItemId)
    (items : List (DataItem Core)) : Observer Client Core Status × UnorderedSet DataItemId :=
  items.foldl (fun state d => cacheItem library eventDataItemNotify state (some d)) state

/-- One item: the cache has it afterwards, and its id is added where that is news. -/
theorem cacheItem_accepted (faithful : library.Faithful)
    (creatable : (library.createNewDataItem d.1).isSome)
    (accepted : (eventDataItemNotify observer.2 d).2 = true) (ids : UnorderedSet DataItemId) :
    ∃ updated, cacheItem library eventDataItemNotify (observer, ids) (some d) =
        (({ observer.1 with mDataItemCache := observer.1.mDataItemCache.insert d.1 d.2 },
          (eventDataItemNotify observer.2 d).1), if updated then ids.insert d.1 else ids) ∧
      (updated = true ↔ observer.1.mDataItemCache.lookup d.1 ≠ some d.2) := by
  obtain ⟨updated, cached, reported⟩ := updateCache_accepted faithful creatable accepted
  refine ⟨updated, ?_, reported⟩
  rw [cacheItem, cached]
  cases updated <;> rfl

/-- Whether a later item is news is judged by the cache with the first one in it. -/
theorem news_cons (before : DataItemId → Option Core) {updated : Bool}
    (reported : updated = true ↔ before d.1 ≠ some d.2) (id : DataItemId) :
    ((id ∈ if updated then ids.insert d.1 else ids) ∨
        ∃ core, (id, core) ∈ items ∧ (if d.1 = id then some d.2 else before id) ≠ some core) ↔
      id ∈ ids ∨ ∃ core, (id, core) ∈ d :: items ∧ before id ≠ some core := by
  by_cases same : d.1 = id
  · subst same
    cases updated with
    | true =>
      have other := reported.mp rfl
      simp only [if_true, UnorderedSet.mem_insert, true_or, true_iff]
      exact .inr ⟨d.2, List.mem_cons_self, other⟩
    | false =>
      have known : before d.1 = some d.2 := not_not.mp (reported.not.mp Bool.false_ne_true)
      simp only [if_true, Bool.false_eq_true, if_false, known]
      apply or_congr_right
      constructor
      · rintro ⟨core, member, other⟩
        exact ⟨core, List.mem_cons_of_mem _ member, other⟩
      · rintro ⟨core, member, other⟩
        rcases List.mem_cons.mp member with own | behind
        · exact absurd (congrArg (fun d => some d.2) own).symm other
        · exact ⟨core, behind, other⟩
  · have kept : (id ∈ if updated then ids.insert d.1 else ids) ↔ id ∈ ids := by
      cases updated
      · rfl
      · exact UnorderedSet.mem_insert.trans (or_iff_right (Ne.symm same))
    have listed (core : Core) : (id, core) ∈ d :: items ↔ (id, core) ∈ items :=
      List.mem_cons.trans (or_iff_right fun own => same (congrArg Prod.fst own).symm)
    simp only [if_neg same, kept, listed]

/-- It leaves the subscriptions as they were, the last values in the cache, and the ids of
which it saw another value than the cache had. -/
theorem cacheItems_spec (faithful : library.Faithful)
    (creatable : ∀ d ∈ items, (library.createNewDataItem d.1).isSome)
    (accepted : Accepted eventDataItemNotify observer.2 items) :
    let after := cacheItems library eventDataItemNotify (observer, ids) items
    after.1.1.mClientToDataItems = observer.1.mClientToDataItems ∧
    after.1.1.mDataItemToClients = observer.1.mDataItemToClients ∧
    (∀ id, after.1.1.mDataItemCache.lookup id =
      (lastValue id items).or (observer.1.mDataItemCache.lookup id)) ∧
    ∀ id, id ∈ after.2 ↔
      id ∈ ids ∨ ∃ core, (id, core) ∈ items ∧ observer.1.mDataItemCache.lookup id ≠ some core := by
  induction items generalizing observer ids with
  | nil => simp [lastValue, cacheItems]
  | cons d items ih =>
    rw [List.forall_mem_cons] at creatable
    obtain ⟨here, later⟩ := accepted
    obtain ⟨updated, first, reported⟩ := cacheItem_accepted faithful creatable.1 here ids
    let between : Observer Client Core Status :=
      ({ observer.1 with mDataItemCache := observer.1.mDataItemCache.insert d.1 d.2 },
        (eventDataItemNotify observer.2 d).1)
    have lookup (id : DataItemId) : between.1.mDataItemCache.lookup id =
        if d.1 = id then some d.2 else observer.1.mDataItemCache.lookup id := by
      by_cases same : d.1 = id
      · rw [← same, if_pos rfl]
        exact AList.lookup_insert _
      · rw [if_neg same]
        exact AList.lookup_insert_ne (Ne.symm same)
    obtain ⟨clients, dataItems, values, listed⟩ :=
      @ih between (if updated then ids.insert d.1 else ids) creatable.2 later
    rw [cacheItems, List.foldl_cons, first]
    refine ⟨clients, dataItems, fun id => ?_, fun id => ?_⟩
    · apply (values id).trans
      rw [lookup, lastValue_cons, Option.or_assoc]
      by_cases same : d.1 = id
      · rw [if_pos same, if_pos same, Option.some_or]
      · rw [if_neg same, if_neg same, Option.none_or]
    · apply (listed id).trans
      rw [lookup]
      exact news_cons (observer.1.mDataItemCache.lookup ·) reported id

/-- The null pointers of the vector do nothing. -/
theorem cacheItem_dataItemVec (faithful : library.Faithful) (dlist : List (DataItem Core))
    (state : Observer Client Core Status × UnorderedSet DataItemId) :
    (dataItemVec library dlist).foldl (cacheItem library eventDataItemNotify) state =
      cacheItems library eventDataItemNotify state (created library dlist) := by
  have nothing (count : Nat) :
      (List.replicate count none).foldl (cacheItem library eventDataItemNotify) state = state := by
    induction count with
    | zero => rfl
    | succ count ih => exact ih
  have copies : (dlist.filterMap fun each => (library.createNewDataItem each.1).map fun di =>
      some (each.1, (library.copy each.1 di each.2).1)) = (created library dlist).map some := by
    rw [created, ← List.filterMap_eq_map, ← List.filterMap_eq_filter, List.filterMap_filterMap]
    apply List.filterMap_congr
    intro each _
    cases made : library.createNewDataItem each.1 with
    | none => simp [Option.guard, made]
    | some di => simp [Option.guard, made, (faithful each.1 di each.2).1]
  rw [dataItemVec, List.foldl_append, nothing, copies, List.foldl_map]
  rfl

end Cache

/-! The clients -/

section Delivery
variable {Client Core Status : Type*} [DecidableEq Client]

/-- The lists that a client was called with. -/
def notified (client : Client) (calls : List (ObserverCall Client Core)) : List (List Core) :=
  calls.filterMap fun
    | .notify receiver dataItems => if receiver = client then some dataItems else none
    | _ => none

variable {observer : SystemStatusOsObserver Client Core} {ids : UnorderedSet DataItemId}
  {client : Client}

theorem mem_clientsOf : client ∈ clientsOf observer ids ↔
    ∃ id ∈ ids, observer.mDataItemToClients.Holds id client := by
  have grows (items : List DataItemId) (clientSet : UnorderedSet Client) :
      client ∈ items.foldl (fun clientSet each =>
        match observer.mDataItemToClients.getValSetPtr each with
        | none => clientSet
        | some clients => clientSet.insertAll clients.elems) clientSet ↔
      client ∈ clientSet ∨ ∃ id ∈ items, observer.mDataItemToClients.Holds id client := by
    induction items generalizing clientSet with
    | nil => simp
    | cons item items ih =>
      rw [List.foldl_cons, ih, List.exists_mem_cons_iff, ← or_assoc]
      apply or_congr_left
      cases found : observer.mDataItemToClients.getValSetPtr item with
      | none =>
        have empty : ¬ observer.mDataItemToClients.Holds item client := by
          rw [LocUnorderedSetMap.getValSetPtr] at found
          simp [LocUnorderedSetMap.Holds, LocUnorderedSetMap.getValSet, found]
        exact (or_iff_left empty).symm
      | some clients =>
        rw [LocUnorderedSetMap.holds_of_lookup found]
        exact UnorderedSet.mem_insertAll
  apply (grows ids.elems .empty).trans
  rw [or_iff_right (UnorderedSet.not_mem_empty client)]
  rfl

theorem mem_itemsForClient {id : DataItemId} : id ∈ itemsForClient observer ids client ↔
    observer.mClientToDataItems.Holds client id ∧ id ∈ ids := by
  have shrinks (items : List DataItemId) (set : UnorderedSet DataItemId) :
      id ∈ items.foldl (fun set itr => if itr ∈ ids then set else set.erase itr) set ↔
        id ∈ set ∧ (id ∈ items → id ∈ ids) := by
    induction items generalizing set with
    | nil => simp
    | cons item items ih =>
      rw [List.foldl_cons, ih]
      by_cases kept : item ∈ ids
      · rw [if_pos kept]
        refine and_congr_right fun _ => ?_
        rw [List.mem_cons]
        refine ⟨fun rest => ?_, fun all member => all (.inr member)⟩
        rintro (rfl | behind)
        · exact kept
        · exact rest behind
      · rw [if_neg kept, UnorderedSet.mem_erase, List.mem_cons]
        constructor
        · rintro ⟨⟨other, member⟩, rest⟩
          exact ⟨member, fun listed => rest (listed.resolve_left other)⟩
        · rintro ⟨member, all⟩
          exact ⟨⟨fun same => kept (same ▸ all (.inl same)), member⟩,
            fun behind => all (.inr behind)⟩
  apply (shrinks _ _).trans
  exact and_congr_right fun member => ⟨fun all => all member, fun kept _ => kept⟩

/-- Of a list without repetitions only one element counts. -/
theorem flatMap_single {α β : Type*} [DecidableEq α] {items : List α} (nodup : items.Nodup)
    (item : α) (results : List β) :
    (items.flatMap fun other => if other = item then results else []) =
      if item ∈ items then results else [] := by
  induction items with
  | nil => rfl
  | cons first items ih =>
    rw [List.nodup_cons] at nodup
    rw [List.flatMap_cons, ih nodup.2]
    by_cases same : first = item
    · subst same
      rw [if_pos rfl, if_neg nodup.1, if_pos List.mem_cons_self, List.append_nil]
    · rw [if_neg same, List.nil_append]
      simp [Ne.symm same]

/-- What a client hears of the cache. -/
theorem notified_sendCachedDataItems (s : UnorderedSet DataItemId) (receiver : Client) :
    notified client (observer.sendCachedDataItems s receiver) =
      if receiver = client then
        if s.elems.filterMap observer.mDataItemCache.lookup = [] then []
        else [(s.elems.filterMap observer.mDataItemCache.lookup).reverse]
      else [] := by
  unfold SystemStatusOsObserver.sendCachedDataItems
  dsimp only
  by_cases none : s.elems.filterMap observer.mDataItemCache.lookup = []
  · rw [none]
    simp [notified]
  · have some : (s.elems.filterMap observer.mDataItemCache.lookup).reverse.isEmpty = false := by
      rw [List.isEmpty_reverse]
      exact List.isEmpty_eq_false_iff.mpr none
    rw [some, if_neg none, if_neg Bool.false_ne_true]
    by_cases own : receiver = client <;> simp [notified, own]

end Delivery

/-! Batches -/

section Batches
variable {Client Core Status : Type*} [DecidableEq Client] {library : DataItemLibrary Core}
  {eventDataItemNotify : Status → DataItem Core → Status × Bool}

/-- The batch has another value for the item than the cache had, or the first one. -/
def Changed (library : DataItemLibrary Core) (observer : SystemStatusOsObserver Client Core)
    (dlist : List (DataItem Core)) (id : DataItemId) : Prop :=
  ∃ core, (id, core) ∈ created library dlist ∧ observer.mDataItemCache.lookup id ≠ some core

/-- The client is called once with the cached values of these items, or not at all if there
are none. -/
def Hears (client : Client) (wanted : DataItemId → Prop) (cache : AList fun _ : DataItemId => Core)
    (calls : List (ObserverCall Client Core)) : Prop :=
  ∃ ids : List DataItemId, ids.Nodup ∧ (∀ id, id ∈ ids ↔ wanted id) ∧
    (∀ id ∈ ids, (cache.lookup id).isSome) ∧
    notified client calls = if ids = [] then [] else [ids.filterMap cache.lookup]

theorem lastValue_isSome {items : List (DataItem Core)} {id : DataItemId} {core : Core}
    (member : (id, core) ∈ items) : (lastValue id items).isSome := by
  rw [lastValue, Option.isSome_map, List.find?_isSome]
  exact ⟨_, List.mem_reverse.mpr member, decide_eq_true rfl⟩

/-- An empty batch has no message, which would do nothing. -/
theorem notify_eq (observer : Observer Client Core Status) (dlist : List (DataItem Core)) :
    notify library eventDataItemNotify observer dlist =
      handleNotify library eventDataItemNotify observer (dataItemVec library dlist) := by
  unfold notify
  split
  · next none =>
    subst none
    rfl
  · rfl

/-- A client with an item to be sent is found by way of the item. -/
theorem hears_of_inverse {observer : SystemStatusOsObserver Client Core}
    (inverse : MutualInverse observer) {ids : UnorderedSet DataItemId}
    (cached : ∀ id ∈ ids, (observer.mDataItemCache.lookup id).isSome) (client : Client) :
    Hears client (fun id => observer.mClientToDataItems.Holds client id ∧ id ∈ ids)
      observer.mDataItemCache ((clientsOf observer ids).elems.flatMap fun client =>
        observer.sendCachedDataItems (itemsForClient observer ids client) client) := by
  let wanted := itemsForClient observer ids client
  have all : ∀ id ∈ wanted.elems, (observer.mDataItemCache.lookup id).isSome := by
    intro id member
    exact cached id (mem_itemsForClient.mp member).2
  refine ⟨wanted.elems.reverse, List.nodup_reverse.mpr wanted.nodup,
    fun id => List.mem_reverse.trans mem_itemsForClient,
    fun id member => all id (List.mem_reverse.mp member), ?_⟩
  have single (other : Client) : notified client
      (observer.sendCachedDataItems (itemsForClient observer ids other) other) =
        if other = client then
          if wanted.elems.filterMap observer.mDataItemCache.lookup = [] then []
          else [(wanted.elems.filterMap observer.mDataItemCache.lookup).reverse]
        else [] := by
    rw [notified_sendCachedDataItems]
    by_cases own : other = client
    · subst own
      rfl
    · rw [if_neg own, if_neg own]
  have parts : notified client ((clientsOf observer ids).elems.flatMap fun client =>
      observer.sendCachedDataItems (itemsForClient observer ids client) client) =
        (clientsOf observer ids).elems.flatMap fun other => notified client
          (observer.sendCachedDataItems (itemsForClient observer ids other) other) :=
    List.filterMap_flatMap
  rw [parts]
  simp only [single]
  rw [flatMap_single (clientsOf observer ids).nodup, List.filterMap_reverse]
  have empty_iff : wanted.elems.filterMap observer.mDataItemCache.lookup = [] ↔
      wanted.elems = [] := by
    constructor
    · intro silent
      by_contra some
      obtain ⟨id, member⟩ := List.exists_mem_of_ne_nil _ some
      obtain ⟨core, found⟩ := Option.isSome_iff_exists.mp (all id member)
      have heard : core ∈ wanted.elems.filterMap observer.mDataItemCache.lookup :=
        List.mem_filterMap.mpr ⟨id, member, found⟩
      rw [silent] at heard
      cases heard
    · intro none
      rw [none]
      rfl
  simp only [empty_iff, List.reverse_eq_nil_iff]
  by_cases none : wanted.elems = []
  · rw [if_pos none]
    exact ite_self _
  · obtain ⟨id, member⟩ := List.exists_mem_of_ne_nil _ none
    obtain ⟨subscribed, sent⟩ := mem_itemsForClient.mp member
    have called : client ∈ (clientsOf observer ids).elems :=
      mem_clientsOf.mpr ⟨id, sent, (inverse client id).mp subscribed⟩
    rw [if_pos called]

/-- The processing of a batch leaves the last values in the cache. Each client is called once
with the items of its subscription that were created or changed, each with its cached value,
and not at all if there are none; nothing else is called. -/
theorem notifications_reach_the_interested (faithful : library.Faithful)
    (observer : Observer Client Core Status) (inverse : MutualInverse observer.1)
    (dlist : List (DataItem Core))
    (accepted : Accepted eventDataItemNotify observer.2 (created library dlist)) :
    let (after, calls) := notify library eventDataItemNotify observer dlist
    (∀ id, after.1.mDataItemCache.lookup id =
      (lastValue id (created library dlist)).or (observer.1.mDataItemCache.lookup id)) ∧
    (∀ call ∈ calls, ∃ client dataItems, call = .notify client dataItems) ∧
    ∀ client, Hears client
      (fun id => observer.1.mClientToDataItems.Holds client id ∧
        Changed library observer.1 dlist id)
      after.1.mDataItemCache calls := by
  have creatable : ∀ d ∈ created library dlist, (library.createNewDataItem d.1).isSome :=
    fun d member => (List.mem_filter.mp member).2
  obtain ⟨clients, dataItems, values, listed⟩ :=
    @cacheItems_spec _ _ _ library eventDataItemNotify observer (created library dlist) .empty
      faithful creatable accepted
  simp only [UnorderedSet.not_mem_empty, false_or] at listed
  rw [notify_eq, handleNotify, cacheItem_dataItemVec faithful]
  generalize cacheItems library eventDataItemNotify (observer, .empty) (created library dlist) =
    after at clients dataItems values listed ⊢
  refine ⟨values, fun call member => ?_, fun client => ?_⟩
  · obtain ⟨client, -, called⟩ := List.mem_flatMap.mp member
    unfold SystemStatusOsObserver.sendCachedDataItems at called
    dsimp only at called
    split at called
    · cases called
    · exact ⟨client, _, List.mem_singleton.mp called⟩
  · have cached : ∀ id ∈ after.2, (after.1.1.mDataItemCache.lookup id).isSome := by
      intro id member
      obtain ⟨core, inBatch, -⟩ := (listed id).mp member
      rw [values, Option.isSome_or, lastValue_isSome inBatch, Bool.true_or]
    have inverse : MutualInverse after.1.1 := by
      rw [MutualInverse, clients, dataItems]
      exact inverse
    obtain ⟨ids, nodup, wanted, some, heard⟩ := hears_of_inverse inverse cached client
    refine ⟨ids, nodup, fun id => (wanted id).trans ?_, some, heard⟩
    rw [clients]
    exact and_congr_right fun _ => listed id

/-- One client with one item in its subscription. -/
def oneSubscriber : SystemStatusOsObserver Nat Nat where
  mClientToDataItems := ⟨AList.insert 7 (.singleton .model) ∅⟩
  mDataItemToClients := ⟨AList.insert .model (.singleton 7) ∅⟩
  mDataItemCache := ∅
  mSubscriptionObj := true

/-- Numbers for data items, created as 0. -/
def numberLibrary : DataItemLibrary Nat := ⟨fun _ => some 0, fun _ di src => (src, di != src)⟩

theorem holds_single {κ ν : Type*} [DecidableEq κ] (key other : κ) (value found : ν) :
    (⟨AList.insert key (.singleton value) ∅⟩ : LocUnorderedSetMap κ ν).Holds other found ↔
      other = key ∧ found = value := by
  rw [LocUnorderedSetMap.Holds, LocUnorderedSetMap.getValSet]
  by_cases same : other = key
  · rw [same, AList.lookup_insert, Option.getD_some, UnorderedSet.mem_singleton,
      and_iff_right rfl]
  · rw [AList.lookup_insert_ne same, AList.lookup_empty, Option.getD_none]
    exact iff_of_false (UnorderedSet.not_mem_empty _) fun both => same both.1

theorem mutualInverse_oneSubscriber : MutualInverse oneSubscriber := by
  intro client item
  rw [oneSubscriber, holds_single, holds_single, and_comm]

theorem the_subscriber_hears_of_its_item :
    let dlist := [(DataItemId.model, 5), (.tac, 6), (.model, 5)]
    let (after, calls) := notify numberLibrary (fun (status : Unit) _ => (status, true))
      (oneSubscriber, ()) dlist
    Hears 7 (fun id => oneSubscriber.mClientToDataItems.Holds 7 id ∧
      Changed numberLibrary oneSubscriber dlist id) after.1.mDataItemCache calls := by
  have faithful : numberLibrary.Faithful := fun _ _ _ => ⟨rfl, bne_iff_ne⟩
  exact (notifications_reach_the_interested faithful (oneSubscriber, ())
    mutualInverse_oneSubscriber [(.model, 5), (.tac, 6), (.model, 5)]
    (And.intro rfl (And.intro rfl (And.intro rfl trivial)))).2.2 7

end Batches

end Msm8917Common.DataItemNotify
