import Msm8917Common.RilEvent
import Msm8917Common.Runs

/-! When a deleted event of `ril_event.cpp` stays silent. An event fires only from a
pointer of the pending list, and pointers are only copied: what no `next` field, no
watch slot and no local variable points to is not found again until it is added. -/
namespace Msm8917Common.Ril.Event
open Runs

/-- No node has the event for its `next`. -/
def Unlinked (ev : Nat) (node : Memory) : Prop :=
  ∀ other, (node other).next ≠ some (.event ev)

/-- The pointer that the loop keeps in a local variable. -/
def Control.held : Control → Option Node
  | .timeouts _ _ _ tev => tev
  | .firing ev => ev
  | _ => none

/-- Nothing leads to the event. -/
structure Gone (ev : Nat) (state : State) : Prop where
  unlinked : Unlinked ev state.node
  unwatched : ∀ i < MAX_FD_EVENTS, state.watch_table i ≠ some ev
  unheld : state.control.held ≠ some (.event ev)
  unsought : ∀ adding list, state.seeking = some (adding, list) →
    adding ≠ ev ∧ list ≠ some (.event ev)

/-- Each deleted event is out of reach. -/
def Invariant (state : State) : Prop :=
  ∀ ev ∈ state.deleted, Gone ev state

/-- The event is on no list, `firePending` has not saved it, and it has no slot but
the one that its `index` names. -/
structure Deletable (ev : Nat) (state : State) : Prop where
  unlinked : Unlinked ev state.node
  unheld : state.control.held ≠ some (.event ev)
  slots : ∀ i < MAX_FD_EVENTS, state.watch_table i = some ev →
    (state.node (.event ev)).index = i

/-- A call that deletes an event finds it deletable. -/
def deletes_in_time (state : State) : Input → Prop
  | .ril_event_del ev => state.callable → Deletable ev state
  | _ => True

/-! What a pointer may become -/

section Memory
variable {node after : Memory} {ev list : Node} {silent : Nat}

theorem setNext_next (ev : Node) (next : Option Node) (node : Memory) (other : Node) :
    (setNext ev next node other).next = if other = ev then next else (node other).next := by
  by_cases same : other = ev
  · subst same
    simp [setNext]
  · simp [setNext, same]

theorem setPrev_next (ev : Node) (prev : Option Node) (node : Memory) (other : Node) :
    (setPrev ev prev node other).next = (node other).next := by
  by_cases same : other = ev
  · subst same
    simp [setPrev]
  · simp [setPrev, same]

theorem unlinked_setPrev (prev : Option Node) (unlinked : Unlinked silent node) :
    Unlinked silent (setPrev ev prev node) := by
  intro other
  rw [setPrev_next]
  exact unlinked other

theorem unlinked_setNext {next : Option Node} (unlinked : Unlinked silent node)
    (elsewhere : next ≠ some (.event silent)) : Unlinked silent (setNext ev next node) := by
  intro other
  rw [setNext_next]
  split
  · exact elsewhere
  · exact unlinked other

theorem unlinked_addToList (added : addToList ev list node = some after)
    (unlinked : Unlinked silent node) (notAdded : ev ≠ .event silent)
    (notNext : list ≠ .event silent) : Unlinked silent after := by
  simp only [addToList] at added
  split at added
  · cases added
  · cases added
    refine unlinked_setPrev _ (unlinked_setNext ?_ fun same => notAdded (Option.some.inj same))
    exact unlinked_setPrev _ (unlinked_setNext unlinked fun same => notNext (Option.some.inj same))

theorem unlinked_removeFromList (removed : removeFromList ev node = some after)
    (unlinked : Unlinked silent node) : Unlinked silent after := by
  simp only [removeFromList] at removed
  split at removed
  · cases removed
  · split at removed
    · cases removed
    · cases removed
      refine unlinked_setPrev _ (unlinked_setNext ?_ (by simp))
      apply unlinked_setNext (unlinked_setPrev _ unlinked)
      rw [setPrev_next]
      exact unlinked ev

/-- A write that leaves the `next` of the node alone. -/
theorem unlinked_update {record : RilEvent} (same : record.next = (node ev).next)
    (unlinked : Unlinked silent node) : Unlinked silent (Function.update node ev record) := by
  intro other
  by_cases here : other = ev
  · subst here
    rw [Function.update_self, same]
    exact unlinked other
  · rw [Function.update_of_ne here]
    exact unlinked other

end Memory

/-! What a step leaves out of reach -/

namespace State
variable {state : State} {silent ev : Nat}

theorem gone_crash (gone : Gone silent state) : Gone silent state.crash :=
  { gone with unheld := by simp [crash, Control.held] }

theorem unwatched_update {watch_table : Nat → Option Nat} {index : Nat} {slot : Option Nat}
    (unwatched : ∀ i < MAX_FD_EVENTS, watch_table i ≠ some silent) (other : slot ≠ some silent) :
    ∀ i < MAX_FD_EVENTS, Function.update watch_table index slot i ≠ some silent := by
  intro i inside
  by_cases here : i = index
  · subst here
    rwa [Function.update_self]
  · rw [Function.update_of_ne here]
    exact unwatched i inside

theorem gone_removeWatch (ev index : Nat) (gone : Gone silent state) :
    Gone silent (removeWatch ev index state) where
  unlinked := unlinked_update rfl gone.unlinked
  unwatched := unwatched_update gone.unwatched (by simp)
  unheld := gone.unheld
  unsought := gone.unsought

theorem gone_ril_event_add (other : ev ≠ silent) (gone : Gone silent state) :
    Gone silent (state.ril_event_add ev) := by
  unfold ril_event_add
  split
  · exact gone
  · exact ⟨unlinked_update rfl gone.unlinked,
      unwatched_update gone.unwatched fun same => other (Option.some.inj same),
      gone.unheld, gone.unsought⟩

theorem gone_ril_timer_add (tv : Option Timeval) (now : Timeval) (other : ev ≠ silent)
    (gone : Gone silent state) : Gone silent (state.ril_timer_add ev tv now) := by
  cases tv with
  | none => exact gone
  | some tv =>
    refine ⟨unlinked_update rfl gone.unlinked, gone.unwatched, gone.unheld, ?_⟩
    rintro adding list ⟨⟩
    exact ⟨other, gone.unlinked .timer_list⟩

theorem gone_walk (gone : Gone silent state) : Gone silent state.walk := by
  unfold walk
  split
  · exact gone
  · exact gone_crash gone
  · next adding list sought =>
    obtain ⟨other, notList⟩ := gone.unsought _ _ sought
    split
    · refine { gone with unsought := ?_ }
      rintro _ _ ⟨⟩
      exact ⟨other, gone.unlinked list⟩
    · split
      · exact gone_crash gone
      · next node added =>
        refine ⟨unlinked_addToList added gone.unlinked ?_ ?_, gone.unwatched, gone.unheld, ?_⟩
        · exact fun same => other (Node.event.inj same)
        · exact fun same => notList (congrArg some same)
        · rintro _ _ ⟨⟩

theorem gone_processTimeouts {rfds : Finset Int} {n : Nat} {now : Timeval} {tev : Option Node}
    (held : tev ≠ some (.event silent)) (gone : Gone silent state) :
    Gone silent (processTimeouts rfds n now tev state) := by
  unfold processTimeouts
  split
  · exact gone_crash gone
  · next tev =>
    split
    · simp only
      split
      · exact gone_crash gone
      · next node moved =>
        obtain ⟨between, removed, added⟩ := Option.bind_eq_some_iff.mp moved
        refine ⟨unlinked_addToList added (unlinked_removeFromList removed gone.unlinked) ?_ ?_,
          gone.unwatched, gone.unlinked tev, gone.unsought⟩
        · exact fun same => held (congrArg some same)
        · exact Node.noConfusion
    · exact { gone with unheld := by simp [Control.held] }

theorem gone_processReadReadies (rfds : Finset Int) (n i : Nat) (gone : Gone silent state) :
    Gone silent (processReadReadies rfds n i state) := by
  unfold processReadReadies
  split
  · next turns =>
    split
    · exact { gone with unheld := by simp [Control.held] }
    · next rev watched =>
      split
      · split
        · exact gone_crash gone
        · next node added =>
          have other : Node.event rev ≠ .event silent := by
            intro same
            cases same
            exact gone.unwatched i turns.1 watched
          have queued : Gone silent
              { state with node, control := .readies rfds (n - 1) (i + 1) } :=
            ⟨unlinked_addToList added gone.unlinked other Node.noConfusion, gone.unwatched,
              by simp [Control.held], gone.unsought⟩
          simp only
          split
          · exact queued
          · exact gone_removeWatch rev i queued
      · exact { gone with unheld := by simp [Control.held] }
  · exact { gone with unheld := by simp [Control.held] }

theorem gone_firePending {ev : Option Node} (gone : Gone silent state) :
    Gone silent (firePending ev state) := by
  unfold firePending
  split
  · exact gone_crash gone
  · exact { gone with unheld := by simp [Control.held] }
  · next ev _ =>
    simp only
    split
    · exact gone_crash gone
    · next node removed =>
      split
      · exact gone_crash gone
      · exact ⟨unlinked_removeFromList removed gone.unlinked, gone.unwatched, gone.unlinked ev,
          gone.unsought⟩

theorem gone_loopStep (gone : Gone silent state) : Gone silent state.loopStep := by
  unfold loopStep
  split
  · split
    · exact gone_crash gone
    · exact { gone with unheld := by simp [Control.held] }
  · next rfds n now tev here =>
    refine gone_processTimeouts ?_ gone
    have held := gone.unheld
    rwa [here] at held
  · exact { gone with unheld := by simp [Control.held] }
  · exact gone_processReadReadies _ _ _ gone
  · exact { gone with unheld := gone.unlinked .pending_list }
  · exact gone_firePending gone
  all_goals exact gone

theorem deleted_walk (state : State) : state.walk.deleted = state.deleted := by
  unfold walk
  split
  · rfl
  · rfl
  · split
    · rfl
    · split <;> rfl

theorem deleted_processReadReadies (rfds : Finset Int) (n i : Nat) (state : State) :
    (processReadReadies rfds n i state).deleted = state.deleted := by
  unfold processReadReadies
  split
  · split
    · rfl
    · split
      · split
        · rfl
        · simp only
          split <;> rfl
      · rfl
  · rfl

theorem deleted_loopStep (state : State) : state.loopStep.deleted = state.deleted := by
  unfold loopStep
  split
  · split <;> rfl
  · unfold processTimeouts
    split
    · rfl
    · split
      · simp only
        split <;> rfl
      · rfl
  · rfl
  · exact deleted_processReadReadies _ _ _ _
  · rfl
  · unfold firePending
    split
    · rfl
    · rfl
    · simp only
      split
      · rfl
      · split <;> rfl
  all_goals rfl

/-- A call that adds an event either takes it off the deleted ones or does nothing. -/
theorem gone_of_ril_event_add (inv : Invariant state)
    (deleted : silent ∈ (state.ril_event_add ev).deleted) :
    Gone silent (state.ril_event_add ev) := by
  cases found : state.freeSlot with
  | none =>
    have same : state.ril_event_add ev = state := by simp only [ril_event_add, found]
    rw [same] at deleted ⊢
    exact inv silent deleted
  | some i =>
    simp only [ril_event_add, found, Finset.mem_erase] at deleted
    exact gone_ril_event_add deleted.1.symm (inv silent deleted.2)

theorem gone_of_ril_timer_add {tv : Option Timeval} {now : Timeval} (inv : Invariant state)
    (deleted : silent ∈ (state.ril_timer_add ev tv now).deleted) :
    Gone silent (state.ril_timer_add ev tv now) := by
  cases tv with
  | none => exact inv silent deleted
  | some tv =>
    obtain ⟨other, before⟩ := Finset.mem_erase.mp deleted
    exact gone_ril_timer_add _ now other.symm (inv silent before)

theorem gone_of_ril_event_del (inv : Invariant state) (alone : state.seeking = none)
    (deletable : Deletable ev state) (deleted : silent ∈ (state.ril_event_del ev).deleted) :
    Gone silent (state.ril_event_del ev) := by
  have among : silent ∈ insert ev state.deleted := by
    unfold ril_event_del at deleted
    simp only at deleted
    split at deleted <;> exact deleted
  unfold ril_event_del
  simp only
  rcases Finset.mem_insert.mp among with rfl | before
  · have unsought : ∀ adding list, state.seeking = some (adding, list) →
        adding ≠ silent ∧ list ≠ some (.event silent) := by simp [alone]
    split
    · next outside =>
      refine ⟨deletable.unlinked, ?_, deletable.unheld, unsought⟩
      intro i inside watched
      have index := deletable.slots i inside watched
      simp only [MAX_FD_EVENTS] at outside inside
      omega
    · refine ⟨unlinked_update rfl deletable.unlinked, ?_, deletable.unheld, unsought⟩
      intro i inside
      change Function.update state.watch_table _ none i ≠ some silent
      by_cases here : i = (state.node (.event silent)).index.toNat
      · rw [← here, Function.update_self]
        simp
      · rw [Function.update_of_ne here]
        intro watched
        have index := deletable.slots i inside watched
        omega
  · have gone := inv silent before
    split
    · exact { gone with }
    · exact { gone_removeWatch ev _ gone with }

theorem seeking_of_callable (free : state.callable) : state.seeking = none := by
  unfold callable at free
  split at free
  · cases free
  · cases free
  · cases free
  · exact Option.isNone_iff_eq_none.mp free

/-- What a step does to the deleted events that are out of reach. -/
theorem invariant_step (state : State) (input : Input) (inv : Invariant state)
    (met : deletes_in_time state input) : Invariant (state.step input) := by
  intro silent deleted
  unfold step at deleted ⊢
  split at deleted
  · exact inv silent deleted
  · rw [deleted_walk] at deleted
    exact gone_walk (inv silent deleted)
  · exact inv silent deleted
  · rw [deleted_loopStep] at deleted
    exact gone_loopStep (inv silent deleted)
  · exact { inv silent deleted with unheld := by simp [Control.held] }
  · exact { inv silent deleted with unheld := by simp [Control.held] }
  · exact { inv silent deleted with unheld := by simp [Control.held] }
  · exact { inv silent deleted with unheld := (inv silent deleted).unlinked .timer_list }
  · split at deleted
    · next free =>
      rw [if_pos free]
      exact gone_of_ril_event_add inv deleted
    · next held =>
      rw [if_neg held]
      exact inv silent deleted
  · split at deleted
    · next free =>
      rw [if_pos free]
      exact gone_of_ril_timer_add inv deleted
    · next held =>
      rw [if_neg held]
      exact inv silent deleted
  · split at deleted
    · next free =>
      rw [if_pos free]
      exact gone_of_ril_event_del inv (seeking_of_callable free) (met free) deleted
    · next held =>
      rw [if_neg held]
      exact inv silent deleted
  · exact inv silent deleted

theorem held_of_fired {input : Input} (fires : state.fired input = some ev) :
    state.control.held = some (.event ev) := by
  unfold fired at fires
  split at fires
  · next here _ =>
    obtain ⟨_, _, rfl⟩ := Option.map_eq_some_iff.mp fires
    rw [here]
    rfl
  · cases fires

end State

/-! Runs -/

/-- No step of the run fires an event that was deleted and not added since. -/
def StaysSilent (start : State) (inputs : List Input) : Prop :=
  ∀ taken ∈ steps State.step start inputs, ∀ ev, taken.1.fired taken.2 = some ev →
    ev ∉ taken.1.deleted

theorem invariant_initial (fd : Nat → Int) (persist : Nat → Bool) :
    Invariant (initial fd persist) :=
  fun _ deleted => absurd deleted (Finset.notMem_empty _)

/-- Deleted events stay silent over any run that deletes each event only while it is
on no list and holds no slot but its own. -/
theorem deleted_events_stay_silent (fd : Nat → Int) (persist : Nat → Bool) (inputs : List Input)
    (met : ∀ taken ∈ steps State.step (initial fd persist) inputs,
      deletes_in_time taken.1 taken.2) :
    StaysSilent (initial fd persist) inputs := by
  have visited := invariant_while State.invariant_step inputs (invariant_initial fd persist) met
  intro taken member ev fires deleted
  have gone := visited taken.1 (state_of_mem_steps member) ev deleted
  exact gone.unheld (State.held_of_fired fires)

/-- An event that waits on its descriptor and is on no list. -/
theorem a_watched_event_stays_silent :
    let inputs : List Input :=
      [.ril_event_add 1, .ril_event_del 1, .loop, .select {5}, .getNow ⟨11, 0⟩]
    (∀ taken ∈ steps State.step (initial (fun _ => 5) fun _ => true) inputs,
      deletes_in_time taken.1 taken.2) ∧
      StaysSilent (initial (fun _ => 5) fun _ => true) inputs := by
  have met : ∀ taken ∈ steps State.step (initial (fun _ => 5) fun _ => true)
      [.ril_event_add 1, .ril_event_del 1, .loop, .select {5}, .getNow ⟨11, 0⟩],
      deletes_in_time taken.1 taken.2 := by
    simp only [steps, List.forall_mem_cons, deletes_in_time, true_and, List.not_mem_nil,
      false_imp_iff, implies_true, and_true]
    refine fun _ => ⟨unlinked_update rfl ?_, by decide, by decide⟩
    rintro (_ | _ | ev) <;> simp [initial, initialNode]
  exact ⟨met, deleted_events_stay_silent _ _ _ met⟩

/-- `ril_event_del` of a timer finds `index` negative and returns. -/
theorem a_deleted_timer_fires :
    ¬ ∀ (fd : Nat → Int) (persist : Nat → Bool) (inputs : List Input),
      StaysSilent (initial fd persist) inputs := by
  intro silent
  let inputs : List Input := [.ril_timer_add 1 (some ⟨0, 0⟩) ⟨10, 0⟩, .walk, .ril_event_del 1,
    .loop, .select ∅, .getNow ⟨11, 0⟩, .loop, .loop, .loop, .loop, .loop]
  refine silent (fun _ => 5) (fun _ => true) (inputs ++ [.loop]) _
    (last_mem_steps (initial (fun _ => 5) fun _ => true) inputs .loop) 1 (by decide) (by decide)

end Msm8917Common.Ril.Event
