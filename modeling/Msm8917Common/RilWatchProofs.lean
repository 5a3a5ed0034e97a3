import Mathlib.Data.Set.Function
import Msm8917Common.RilTimerProofs

/-! The watch table of `ril_event.cpp` over calls of `ril_event_add`, `ril_event_del` and
`processReadReadies`: its slots, the set for `select` and the bound on its descriptors
tell the same. -/
namespace Msm8917Common.Ril.Event

inductive WatchCall where
  | ril_event_add (ev : Nat)
  | ril_event_del (ev : Nat)
  | processReadReadies (rfds : Finset Int) (n : Nat)

theorem OnlyLinks.fd {node after : Memory} (only : OnlyLinks node after) (ev : Node) :
    (after ev).fd = (node ev).fd := by
  rw [only ev]

theorem OnlyLinks.index {node after : Memory} (only : OnlyLinks node after) (ev : Node) :
    (after ev).index = (node ev).index := by
  rw [only ev]

namespace State

/-- Up to the loop of the call, if it has one. -/
def enterWatch (state : State) : WatchCall → State
  | .ril_event_add ev => state.ril_event_add ev
  | .ril_event_del ev => state.ril_event_del ev
  | .processReadReadies rfds n => { state with control := .readies rfds n 0 }

/-- The event has a slot of the table. -/
def Watched (state : State) (ev : Nat) : Prop :=
  ∃ i < MAX_FD_EVENTS, state.watch_table i = some ev

/-- Calls one after the other, each of which returns. What is added is one of these events
and is not watched. -/
inductive WatchRun (events : Set Nat) (start : State) : List WatchCall → State → Prop where
  | start : WatchRun events start [] start
  | call {calls : List WatchCall} {state after : State} (run : WatchRun events start calls state)
      (call : WatchCall)
      (fresh : ∀ ev, call = .ril_event_add ev → ev ∈ events ∧ ¬ state.Watched ev)
      (ends : Ends (state.enterWatch call) after) : WatchRun events start (calls ++ [call]) after

/-- The table, the indices of the events, the set and the bound agree. `pending_list` leads
back to some node, so that it can be added to. -/
structure Watching (fd : Nat → Int) (events : Set Nat) (state : State) : Prop where
  descriptor : ∀ ev, (state.node (.event ev)).fd = fd ev
  events : ∀ ev, state.Watched ev → ev ∈ events
  index : ∀ i < MAX_FD_EVENTS, ∀ ev, state.watch_table i = some ev →
    (state.node (.event ev)).index = i
  unwatched : ∀ ev, ¬ state.Watched ev → (state.node (.event ev)).index = -1
  readFds : ∀ descriptor, descriptor ∈ state.readFds ↔
    ∃ ev, state.Watched ev ∧ fd ev = descriptor
  nfds : ∀ ev, state.Watched ev → fd ev < state.nfds
  pending : (state.node .pending_list).prev ≠ none

variable {state : State} {fd : Nat → Int} {events : Set Nat} {ev : Nat}

theorem Watching.one_slot (watching : Watching fd events state) {i j : Nat}
    (first : i < MAX_FD_EVENTS) (second : j < MAX_FD_EVENTS)
    (here : state.watch_table i = some ev) (there : state.watch_table j = some ev) : i = j := by
  have same := (watching.index i first ev here).symm.trans (watching.index j second ev there)
  exact Int.ofNat_inj.mp same

/-- Nothing that the table is about is different. -/
theorem Watching.congr (watching : Watching fd events state) {after : State}
    (descriptor : ∀ ev, (after.node (.event ev)).fd = (state.node (.event ev)).fd)
    (index : ∀ ev, (after.node (.event ev)).index = (state.node (.event ev)).index)
    (table : after.watch_table = state.watch_table) (readFds : after.readFds = state.readFds)
    (nfds : after.nfds = state.nfds) (pending : (after.node .pending_list).prev ≠ none) :
    Watching fd events after := by
  have watched : after.Watched = state.Watched := by
    funext ev
    rw [Watched, table]
    rfl
  constructor
  · exact fun ev => (descriptor ev).trans (watching.descriptor ev)
  · exact watched ▸ watching.events
  · intro i inside ev here
    rw [table] at here
    exact (index ev).trans (watching.index i inside ev here)
  · rw [watched]
    exact fun ev none => (index ev).trans (watching.unwatched ev none)
  · rw [readFds, watched]
    exact watching.readFds
  · rw [nfds, watched]
    exact watching.nfds
  · exact pending

theorem watching_initial (fd : Nat → Int) (persist : Nat → Bool) (events : Set Nat) :
    Watching fd events (initial fd persist) := by
  have none (ev : Nat) : ¬ (initial fd persist).Watched ev := fun ⟨_, _, here⟩ => by cases here
  refine ⟨fun _ => rfl, fun ev watched => absurd watched (none ev), fun _ _ _ => nofun,
    fun _ _ => rfl, fun descriptor => ?_, fun ev watched => absurd watched (none ev), nofun⟩
  refine ⟨fun member => absurd member (Finset.notMem_empty _), ?_⟩
  rintro ⟨ev, watched, -⟩
  exact absurd watched (none ev)

/-! The calls -/

theorem freeSlot_some {i : Nat} (free : state.freeSlot = some i) :
    i < MAX_FD_EVENTS ∧ state.watch_table i = none := by
  have empty := List.find?_some free
  exact ⟨List.mem_range.mp (List.mem_of_find?_eq_some free), Option.isNone_iff_eq_none.mp empty⟩

/-- Who has a slot after one of them was written. -/
theorem slot_update {table : Nat → Option Nat} {i : Nat} (inside : i < MAX_FD_EVENTS)
    (slot : Option Nat) (other : Nat) :
    (∃ j < MAX_FD_EVENTS, Function.update table i slot j = some other) ↔
      slot = some other ∨ ∃ j < MAX_FD_EVENTS, j ≠ i ∧ table j = some other := by
  constructor
  · rintro ⟨j, within, here⟩
    by_cases same : j = i
    · subst same
      rw [Function.update_self] at here
      exact .inl here
    · rw [Function.update_of_ne same] at here
      exact .inr ⟨j, within, same, here⟩
  · rintro (here | ⟨j, within, different, here⟩)
    · exact ⟨i, inside, by rw [Function.update_self, here]⟩
    · exact ⟨j, within, by rw [Function.update_of_ne different, here]⟩

theorem fd_update (node : Memory) (ev other : Nat) (index : Int) :
    (Function.update node (.event ev) { node (.event ev) with index } (.event other)).fd =
      (node (.event other)).fd := by
  by_cases same : other = ev <;> simp [same]

theorem index_update (node : Memory) (ev other : Nat) (index : Int) :
    (Function.update node (.event ev) { node (.event ev) with index } (.event other)).index =
      if other = ev then index else (node (.event other)).index := by
  by_cases same : other = ev <;> simp [same]

/-- A free slot takes one event more. -/
theorem slot_added {i : Nat} (inside : i < MAX_FD_EVENTS) (empty : state.watch_table i = none)
    (ev other : Nat) :
    (∃ j < MAX_FD_EVENTS, Function.update state.watch_table i (some ev) j = some other) ↔
      ev = other ∨ state.Watched other := by
  rw [slot_update inside, Option.some.injEq]
  apply or_congr_right
  constructor
  · rintro ⟨j, within, _, here⟩
    exact ⟨j, within, here⟩
  · rintro ⟨j, within, here⟩
    refine ⟨j, within, fun same => ?_, here⟩
    rw [same, empty] at here
    cases here

theorem watching_ril_event_add (watching : Watching fd events state) (member : ev ∈ events)
    (fresh : ¬ state.Watched ev) : Watching fd events (state.ril_event_add ev) := by
  unfold State.ril_event_add
  cases free : state.freeSlot with
  | none => exact watching
  | some i =>
    obtain ⟨inside, empty⟩ := freeSlot_some free
    have watched := slot_added inside empty ev
    dsimp only
    constructor
    · exact fun other => (fd_update _ _ _ _).trans (watching.descriptor other)
    · intro other slot
      rcases (watched other).mp slot with rfl | before
      · exact member
      · exact watching.events other before
    · intro j within other here
      dsimp only at here
      apply (index_update _ _ _ _).trans
      by_cases same : j = i
      · subst same
        rw [Function.update_self] at here
        cases here
        exact if_pos rfl
      · rw [Function.update_of_ne same] at here
        have different : other ≠ ev := fun same => fresh (same ▸ ⟨j, within, here⟩)
        exact (if_neg different).trans (watching.index j within other here)
    · intro other none
      have apart := not_or.mp ((watched other).not.mp none)
      refine (index_update _ _ _ _).trans ((if_neg (Ne.symm apart.1)).trans ?_)
      exact watching.unwatched other apart.2
    · intro descriptor
      simp only [Finset.mem_insert, watching.descriptor, watching.readFds]
      constructor
      · rintro (rfl | ⟨other, before, same⟩)
        · exact ⟨ev, (watched ev).mpr (.inl rfl), rfl⟩
        · exact ⟨other, (watched other).mpr (.inr before), same⟩
      · rintro ⟨other, slot, same⟩
        rcases (watched other).mp slot with rfl | before
        · exact .inl same.symm
        · exact .inr ⟨other, before, same⟩
    · intro other slot
      simp only [watching.descriptor]
      rcases (watched other).mp slot with rfl | before
      · split <;> omega
      · have bound := watching.nfds other before
        split <;> omega
    · simpa using watching.pending

/-- One turn of the loop of `largestFd`. -/
def larger (node : Memory) (table : Nat → Option Nat) (n : Int) (i : Nat) : Int :=
  match table i with
  | some rev => if n < (node (.event rev)).fd then (node (.event rev)).fd else n
  | none => n

theorem le_larger (node : Memory) (table : Nat → Option Nat) (n : Int) (i : Nat) :
    n ≤ larger node table n i ∧
      ∀ ev, table i = some ev → (node (.event ev)).fd ≤ larger node table n i := by
  unfold larger
  cases table i with
  | none => exact ⟨le_refl n, nofun⟩
  | some rev =>
    dsimp only
    constructor
    · split <;> omega
    · intro ev same
      cases same
      split <;> omega

/-- Every descriptor of the table is at most the largest. -/
theorem le_largestFd {node : Memory} {table : Nat → Option Nat} {i : Nat}
    (inside : i < MAX_FD_EVENTS) (here : table i = some ev) :
    (node (.event ev)).fd ≤ largestFd node table := by
  have grows (slots : List Nat) : ∀ start, start ≤ slots.foldl (larger node table) start ∧
      (i ∈ slots → (node (.event ev)).fd ≤ slots.foldl (larger node table) start) := by
    induction slots with
    | nil => exact fun start => ⟨le_refl start, nofun⟩
    | cons slot slots ih =>
      intro start
      obtain ⟨more, covers⟩ := le_larger node table start slot
      obtain ⟨rest, later⟩ := ih (larger node table start slot)
      refine ⟨le_trans more rest, fun member => ?_⟩
      rcases List.mem_cons.mp member with rfl | behind
      · exact le_trans (covers ev here) rest
      · exact later behind
  exact (grows _ 0).2 (List.mem_range.mpr inside)

section Removal
variable {i : Nat}

theorem watched_removeWatch (watching : Watching fd events state) (inside : i < MAX_FD_EVENTS)
    (here : state.watch_table i = some ev) (other : Nat) :
    (removeWatch ev i state).Watched other ↔ state.Watched other ∧ other ≠ ev := by
  apply (slot_update inside none other).trans
  rw [or_iff_right nofun]
  constructor
  · rintro ⟨j, within, different, slot⟩
    refine ⟨⟨j, within, slot⟩, ?_⟩
    rintro rfl
    exact different (watching.one_slot within inside slot here)
  · rintro ⟨⟨j, within, slot⟩, different⟩
    refine ⟨j, within, ?_, slot⟩
    rintro rfl
    exact different (Option.some.inj (slot.symm.trans here))

theorem fd_removeWatch (watching : Watching fd events state) (i other : Nat) :
    ((removeWatch ev i state).node (.event other)).fd = fd other :=
  (fd_update _ _ _ _).trans (watching.descriptor other)

/-- A bound that was the event's own is computed again from those that are left. -/
theorem lt_nfds_removeWatch (watching : Watching fd events state) (inside : i < MAX_FD_EVENTS)
    (here : state.watch_table i = some ev) {other : Nat}
    (slot : (removeWatch ev i state).Watched other) : fd other < (removeWatch ev i state).nfds := by
  have bound : (removeWatch ev i state).nfds = if fd ev + 1 = state.nfds then
      largestFd (removeWatch ev i state).node (removeWatch ev i state).watch_table + 1
        else state.nfds := by
    rw [← fd_removeWatch watching i ev]
    rfl
  rw [bound]
  split
  · obtain ⟨j, within, still⟩ := slot
    have covered : ((removeWatch ev i state).node (.event other)).fd ≤
        largestFd (removeWatch ev i state).node (removeWatch ev i state).watch_table :=
      le_largestFd within still
    rw [fd_removeWatch watching] at covered
    exact Int.lt_add_one_of_le covered
  · exact watching.nfds other ((watched_removeWatch watching inside here other).mp slot).1

/-- The event leaves its slot, the set, and the bound if that was its own. -/
theorem watching_removeWatch (distinct : Set.InjOn fd events)
    (watching : Watching fd events state) (inside : i < MAX_FD_EVENTS)
    (here : state.watch_table i = some ev) : Watching fd events (removeWatch ev i state) := by
  have watched := watched_removeWatch watching inside here
  constructor
  · exact fd_removeWatch watching i
  · exact fun other slot => watching.events other ((watched other).mp slot).1
  · intro j within other slot
    have different : other ≠ ev := ((watched other).mp ⟨j, within, slot⟩).2
    refine (index_update _ _ _ _).trans ((if_neg different).trans ?_)
    have slot : Function.update state.watch_table i none j = some other := slot
    by_cases same : j = i
    · rw [same, Function.update_self] at slot
      cases slot
    · rw [Function.update_of_ne same] at slot
      exact watching.index j within other slot
  · intro other gone
    apply (index_update _ _ _ _).trans
    split
    · rfl
    · next different =>
      exact watching.unwatched other fun slot => gone ((watched other).mpr ⟨slot, different⟩)
  · have erased : (removeWatch ev i state).readFds = state.readFds.erase (fd ev) :=
      congrArg state.readFds.erase (fd_removeWatch watching i ev)
    intro descriptor
    rw [erased, Finset.mem_erase, watching.readFds]
    constructor
    · rintro ⟨found, other, slot, same⟩
      exact ⟨other, (watched other).mpr ⟨slot, fun own => found (own ▸ same.symm)⟩, same⟩
    · rintro ⟨other, slot, same⟩
      obtain ⟨before, different⟩ := (watched other).mp slot
      refine ⟨fun own => different ?_, other, before, same⟩
      exact distinct (watching.events other before) (watching.events ev ⟨i, inside, here⟩)
        (same.trans own)
  · exact fun other slot => lt_nfds_removeWatch watching inside here slot
  · simpa [removeWatch] using watching.pending

end Removal

/-- Only what is watched has the index of a slot. -/
theorem Watching.watched_of_valid (watching : Watching fd events state)
    (valid : ¬ ((state.node (.event ev)).index < 0 ∨
      MAX_FD_EVENTS ≤ (state.node (.event ev)).index)) : state.Watched ev := by
  by_contra none
  rw [watching.unwatched ev none] at valid
  exact valid (.inl (by decide))

theorem watching_ril_event_del (distinct : Set.InjOn fd events)
    (watching : Watching fd events state) (ev : Nat) :
    Watching fd events (state.ril_event_del ev) := by
  unfold State.ril_event_del
  dsimp only
  split
  · exact watching.congr (fun _ => rfl) (fun _ => rfl) rfl rfl rfl watching.pending
  · next valid =>
    obtain ⟨i, inside, here⟩ := watching.watched_of_valid valid
    rw [watching.index i inside ev here, Int.toNat_natCast]
    exact (watching_removeWatch distinct watching inside here).congr (fun _ => rfl)
      (fun _ => rfl) rfl rfl rfl (watching_removeWatch distinct watching inside here).pending

/-- With a free slot, an event that is added is watched. -/
theorem watched_ril_event_add (free : ∃ i < MAX_FD_EVENTS, state.watch_table i = none)
    (ev other : Nat) :
    (state.ril_event_add ev).Watched other ↔ ev = other ∨ state.Watched other := by
  obtain ⟨i, inside, empty⟩ := free
  have found : state.freeSlot.isSome := List.find?_isSome.mpr
    ⟨i, List.mem_range.mpr inside, Option.isNone_iff_eq_none.mpr empty⟩
  obtain ⟨slot, isSlot⟩ := Option.isSome_iff_exists.mp found
  obtain ⟨within, empty⟩ := freeSlot_some isSlot
  unfold State.ril_event_add
  rw [isSlot]
  exact slot_added within empty ev other

/-- An event that is deleted is not watched any more. -/
theorem watched_ril_event_del (watching : Watching fd events state) (ev other : Nat) :
    (state.ril_event_del ev).Watched other ↔ state.Watched other ∧ other ≠ ev := by
  unfold State.ril_event_del
  dsimp only
  split
  · next outside =>
    refine (and_iff_left_of_imp fun watched => ?_).symm
    rintro rfl
    obtain ⟨i, inside, here⟩ := watched
    rw [watching.index i inside other here] at outside
    simp only [MAX_FD_EVENTS] at inside outside
    omega
  · next valid =>
    obtain ⟨i, inside, here⟩ := watching.watched_of_valid valid
    rw [watching.index i inside ev here, Int.toNat_natCast]
    exact watched_removeWatch watching inside here other

/-! The loop of `processReadReadies` -/

theorem addToList_links {node : Memory} {list : Node} (ev : Node)
    (back : (node list).prev ≠ none) :
    ∃ after, addToList ev list node = some after ∧ OnlyLinks node after ∧
      (after list).prev ≠ none := by
  obtain ⟨before, back⟩ := Option.ne_none_iff_exists'.mp back
  have read : (setPrev ev (setNext ev (some list) node list).prev
      (setNext ev (some list) node) ev).prev = some before := by
    rw [setPrev_prev, if_pos rfl, setNext_prev, back]
  refine ⟨_, by rw [addToList, read], ?_, ?_⟩
  · exact ((onlyLinks_setNext _ _ _).trans (onlyLinks_setPrev _ _ _)).trans
      ((onlyLinks_setNext _ _ _).trans (onlyLinks_setPrev _ _ _))
  · rw [setPrev_prev, if_pos rfl]
    exact Option.some_ne_none _

variable {n i : Nat}

/-- One turn goes on to the next slot. -/
theorem watching_readies (distinct : Set.InjOn fd events) (watching : Watching fd events state)
    (rfds : Finset Int) (goes : i < MAX_FD_EVENTS ∧ 0 < n) :
    ∃ n', (state.processReadReadies rfds n i).control = .readies rfds n' (i + 1) ∧
      (state.processReadReadies rfds n i).seeking = state.seeking ∧
      Watching fd events (state.processReadReadies rfds n i) := by
  have skipped (control : Control) : Watching fd events { state with control } :=
    watching.congr (fun _ => rfl) (fun _ => rfl) rfl rfl rfl watching.pending
  rw [State.processReadReadies, if_pos goes]
  cases slot : state.watch_table i with
  | none => exact ⟨n, rfl, rfl, skipped _⟩
  | some rev =>
    dsimp only
    split
    · obtain ⟨node, added, only, linked⟩ := addToList_links (.event rev) watching.pending
      rw [added]
      dsimp only
      have between : Watching fd events
          { state with node, control := .readies rfds (n - 1) (i + 1) } :=
        watching.congr (fun ev => only.fd (.event ev)) (fun ev => only.index (.event ev)) rfl rfl
          rfl linked
      split
      · exact ⟨n - 1, rfl, rfl, between⟩
      · exact ⟨n - 1, rfl, rfl, watching_removeWatch distinct between goes.1 slot⟩
    · exact ⟨n, rfl, rfl, skipped _⟩

/-- A state between calls, in which everything agrees. -/
structure Agrees (fd : Nat → Int) (events : Set Nat) (state : State) : Prop where
  idle : state.underway = false
  uncrashed : state.control ≠ .crashed
  watching : Watching fd events state

/-- The loop comes to an end after the last slot at the latest. -/
theorem readies_end (distinct : Set.InjOn fd events) (watching : Watching fd events state)
    {rfds : Finset Int} (seeking : state.seeking = none)
    (control : state.control = .readies rfds n i) :
    ∃ after, Ends state after ∧ Agrees fd events after := by
  induction left : MAX_FD_EVENTS - i using Nat.strongRecOn generalizing state n i with
  | ind left ih =>
    have busy : state.underway = true := by
      rw [underway, control]
      exact Bool.or_true _
    have turned : state.turn = state.processReadReadies rfds n i := by
      rw [turn_of_not_seeking seeking, loopStep, control]
    by_cases goes : i < MAX_FD_EVENTS ∧ 0 < n
    · obtain ⟨n', control, still, watching⟩ := watching_readies distinct watching rfds goes
      obtain ⟨after, ends, agrees⟩ :=
        ih _ (by omega) watching (still.trans seeking) control rfl
      exact ⟨after, .turn busy (turned ▸ ends), agrees⟩
    · rw [State.processReadReadies, if_neg goes] at turned
      have idle : { state with control := .ready }.underway = false := by
        rw [underway, seeking]
        rfl
      refine ⟨_, .turn busy (by rw [turned]; exact .ended idle), idle, ?_, ?_⟩
      · intro crashed
        cases crashed
      · exact watching.congr (fun _ => rfl) (fun _ => rfl) rfl rfl rfl watching.pending

/-- Each call returns, and leaves a state in which everything agrees. -/
theorem call_agrees (distinct : Set.InjOn fd events) (agrees : Agrees fd events state)
    (call : WatchCall)
    (fresh : ∀ ev, call = .ril_event_add ev → ev ∈ events ∧ ¬ state.Watched ev) :
    ∃ after, Ends (state.enterWatch call) after ∧ Agrees fd events after := by
  cases call with
  | ril_event_add ev =>
    obtain ⟨member, fresh⟩ := fresh ev rfl
    have same : (state.ril_event_add ev).underway = state.underway ∧
        (state.ril_event_add ev).control = state.control := by
      unfold State.ril_event_add
      split <;> exact ⟨rfl, rfl⟩
    have idle := same.1.trans agrees.idle
    exact ⟨_, .ended idle, idle, same.2 ▸ agrees.uncrashed,
      watching_ril_event_add agrees.watching member fresh⟩
  | ril_event_del ev =>
    have same : (state.ril_event_del ev).underway = state.underway ∧
        (state.ril_event_del ev).control = state.control := by
      unfold State.ril_event_del
      dsimp only
      split <;> exact ⟨rfl, rfl⟩
    have idle := same.1.trans agrees.idle
    exact ⟨_, .ended idle, idle, same.2 ▸ agrees.uncrashed,
      watching_ril_event_del distinct agrees.watching ev⟩
  | processReadReadies rfds n =>
    have entered : Watching fd events (state.enterWatch (.processReadReadies rfds n)) :=
      agrees.watching.congr (fun _ => rfl) (fun _ => rfl) rfl rfl rfl agrees.watching.pending
    have quiet := idle_seeking agrees.idle
    exact readies_end distinct entered quiet rfl

theorem agrees_run (distinct : Set.InjOn fd events) {persist : Nat → Bool}
    {calls : List WatchCall} (run : WatchRun events (initial fd persist) calls state) :
    Agrees fd events state := by
  induction run with
  | start => exact ⟨rfl, nofun, watching_initial fd persist events⟩
  | call run call fresh ends ih =>
    obtain ⟨after, returned, agrees⟩ := call_agrees distinct ih call fresh
    exact ends.unique returned ▸ agrees

/-- In every run the set for `select` has the descriptors of the watched events, each of them
has the one slot that its index names, and the bound is above their descriptors. While there
is a free slot, what is added is watched, and what is deleted is not. Each call returns.
Descriptors may be any numbers here; those that `select` takes lie between 0 and
`FD_SETSIZE`. -/
theorem watch_table_agrees (distinct : Set.InjOn fd events) (persist : Nat → Bool)
    {calls : List WatchCall} (run : WatchRun events (initial fd persist) calls state) :
    (∀ descriptor, descriptor ∈ state.readFds ↔
      ∃ ev, state.Watched ev ∧ (state.node (.event ev)).fd = descriptor) ∧
    (∀ ev, state.Watched ev → ∃ i < MAX_FD_EVENTS,
      (state.node (.event ev)).index = i ∧ state.watch_table i = some ev) ∧
    (∀ i < MAX_FD_EVENTS, ∀ j < MAX_FD_EVENTS, ∀ ev, state.watch_table i = some ev →
      state.watch_table j = some ev → i = j) ∧
    (∀ ev, state.Watched ev → (state.node (.event ev)).fd < state.nfds) ∧
    (∀ ev other, (∃ i < MAX_FD_EVENTS, state.watch_table i = none) →
      ((state.ril_event_add ev).Watched other ↔ ev = other ∨ state.Watched other)) ∧
    (∀ ev other, (state.ril_event_del ev).Watched other ↔ state.Watched other ∧ other ≠ ev) ∧
    ∀ call, (∀ ev, call = .ril_event_add ev → ev ∈ events ∧ ¬ state.Watched ev) →
      ∃ after, (∀ other, Ends (state.enterWatch call) other ↔ other = after) ∧
        after.control ≠ .crashed := by
  have agrees := agrees_run distinct run
  simp only [agrees.watching.descriptor]
  refine ⟨agrees.watching.readFds, ?_, ?_, agrees.watching.nfds,
    fun ev other free => watched_ril_event_add free ev other,
    watched_ril_event_del agrees.watching, ?_⟩
  · rintro ev ⟨i, inside, here⟩
    exact ⟨i, inside, agrees.watching.index i inside ev here, here⟩
  · intro i first j second ev here there
    exact agrees.watching.one_slot first second here there
  · intro call fresh
    obtain ⟨after, ends, agrees⟩ := call_agrees distinct agrees call fresh
    exact ⟨after, fun _ => ⟨fun also => also.unique ends, fun same => same ▸ ends⟩,
      agrees.uncrashed⟩

theorem a_watched_event_is_ready : ∃ state,
    WatchRun {1, 2} (initial (fun ev => ev + 4) fun _ => false)
      [.ril_event_add 1, .ril_event_add 2, .processReadReadies {5} 1] state ∧
    ∀ descriptor, descriptor ∈ state.readFds ↔
      ∃ ev, state.Watched ev ∧ (state.node (.event ev)).fd = descriptor := by
  let fds : Nat → Int := fun ev => ev + 4
  have distinct : Set.InjOn fds {1, 2} := by
    intro ev _ other _ same
    exact Int.ofNat_inj.mp (Int.add_left_inj 4 |>.mp same)
  have none : ¬ (initial fds fun _ => false).Watched 1 := fun ⟨_, _, here⟩ => by cases here
  have other : ¬ ((initial fds fun _ => false).ril_event_add 1).Watched 2 := by
    unfold Watched
    decide
  have run : WatchRun {1, 2} (initial fds fun _ => false) [.ril_event_add 1, .ril_event_add 2]
      (((initial fds fun _ => false).ril_event_add 1).ril_event_add 2) := by
    refine .call (.call .start (.ril_event_add 1) ?_ (.ended rfl)) (.ril_event_add 2) ?_
      (.ended rfl)
    · rintro ev same
      cases same
      exact ⟨.inl rfl, none⟩
    · rintro ev same
      cases same
      exact ⟨.inr rfl, other⟩
  obtain ⟨after, ends, -⟩ :=
    call_agrees distinct (agrees_run distinct run) (.processReadReadies {5} 1) nofun
  have run := WatchRun.call run (.processReadReadies {5} 1) nofun ends
  exact ⟨after, run, (watch_table_agrees distinct (fun _ => false) run).1⟩

end State

end Msm8917Common.Ril.Event
