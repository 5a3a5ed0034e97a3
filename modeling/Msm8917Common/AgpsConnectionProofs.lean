import Msm8917Common.AgpsConnection
import Mathlib.Data.List.Nodup

/-! The invariant of a shared connection, and what each operation does to the
handles that are listed. -/
namespace Msm8917Common.Agps.Connection

/-- The list holds the handle as an active subscriber. -/
def HoldsActive (subscribers : List AgpsSubscriber) (handle : Int) : Prop :=
  ∃ subscriber ∈ subscribers, subscriber.mConnHandle = handle ∧ subscriber.mIsInactive = false

/-- The list holds the handle as one that waits for the close. -/
def HoldsInactive (subscribers : List AgpsSubscriber) (handle : Int) : Prop :=
  ∃ subscriber ∈ subscribers, subscriber.mConnHandle = handle ∧ subscriber.mIsInactive = true

def Listed (subscribers : List AgpsSubscriber) (handle : Int) : Prop :=
  ∃ subscriber ∈ subscribers, subscriber.mConnHandle = handle

/-- No two subscribers have one handle. -/
def Distinct (subscribers : List AgpsSubscriber) : Prop :=
  (subscribers.map (·.mConnHandle)).Nodup

variable {subscribers : List AgpsSubscriber} {subscriber current one other : AgpsSubscriber}
  {handle : Int}

instance : Decidable (HoldsActive subscribers handle) :=
  inferInstanceAs (Decidable (∃ subscriber ∈ subscribers, _))

instance : Decidable (HoldsInactive subscribers handle) :=
  inferInstanceAs (Decidable (∃ subscriber ∈ subscribers, _))

instance : Decidable (Listed subscribers handle) :=
  inferInstanceAs (Decidable (∃ subscriber ∈ subscribers, _))

theorem listed_iff : Listed subscribers handle ↔
    HoldsActive subscribers handle ∨ HoldsInactive subscribers handle := by
  constructor
  · rintro ⟨subscriber, held, rfl⟩
    cases inactive : subscriber.mIsInactive with
    | false => exact .inl ⟨subscriber, held, rfl, inactive⟩
    | true => exact .inr ⟨subscriber, held, rfl, inactive⟩
  · rintro (⟨subscriber, held, same, _⟩ | ⟨subscriber, held, same, _⟩) <;>
      exact ⟨subscriber, held, same⟩

theorem anyActive_iff : anyActive subscribers = true ↔ ∃ handle, HoldsActive subscribers handle := by
  simp [anyActive, HoldsActive]

theorem equal_of_handle (distinct : Distinct subscribers) (first : one ∈ subscribers)
    (second : other ∈ subscribers) (same : one.mConnHandle = other.mConnHandle) : one = other :=
  List.inj_on_of_nodup_map distinct first second same

section Join

private theorem any_equals_iff : subscribers.any (·.equals current) = true ↔
    Listed subscribers current.mConnHandle := by
  simp [Listed, AgpsSubscriber.equals]

theorem mem_join : subscriber ∈ join current subscribers ↔
    subscriber ∈ subscribers ∨
      subscriber = current ∧ ¬ Listed subscribers current.mConnHandle := by
  unfold join
  split
  · next listed => simp [any_equals_iff.mp listed]
  · next absent =>
    rw [any_equals_iff] at absent
    simp [absent]

theorem join_distinct (distinct : Distinct subscribers) : Distinct (join current subscribers) := by
  unfold join
  split
  · exact distinct
  · next absent =>
    rw [any_equals_iff] at absent
    unfold Distinct
    rw [List.map_append, List.nodup_append]
    refine ⟨distinct, List.nodup_singleton _, ?_⟩
    rintro handle held other found rfl
    obtain ⟨subscriber, member, rfl⟩ := List.mem_map.mp held
    exact absent ⟨subscriber, member, by simpa using found⟩

theorem holdsActive_join (active : current.mIsInactive = false) :
    HoldsActive (join current subscribers) handle ↔
      HoldsActive subscribers handle ∨
        handle = current.mConnHandle ∧ ¬ Listed subscribers handle := by
  constructor
  · rintro ⟨subscriber, held, rfl, stays⟩
    rcases mem_join.mp held with old | ⟨rfl, absent⟩
    · exact .inl ⟨subscriber, old, rfl, stays⟩
    · exact .inr ⟨rfl, absent⟩
  · rintro (⟨subscriber, held, rfl, stays⟩ | ⟨rfl, absent⟩)
    · exact ⟨subscriber, mem_join.mpr (.inl held), rfl, stays⟩
    · exact ⟨current, mem_join.mpr (.inr ⟨rfl, absent⟩), rfl, active⟩

theorem holdsInactive_join (active : current.mIsInactive = false) :
    HoldsInactive (join current subscribers) handle ↔ HoldsInactive subscribers handle := by
  constructor
  · rintro ⟨subscriber, held, rfl, stays⟩
    rcases mem_join.mp held with old | ⟨rfl, _⟩
    · exact ⟨subscriber, old, rfl, stays⟩
    · exact absurd stays (by simp [active])
  · rintro ⟨subscriber, held, rfl, stays⟩
    exact ⟨subscriber, mem_join.mpr (.inl held), rfl, stays⟩

theorem listed_join : Listed (join current subscribers) handle ↔
    Listed subscribers handle ∨ handle = current.mConnHandle := by
  constructor
  · rintro ⟨subscriber, held, rfl⟩
    rcases mem_join.mp held with old | ⟨rfl, _⟩
    · exact .inl ⟨subscriber, old, rfl⟩
    · exact .inr rfl
  · rintro (⟨subscriber, held, rfl⟩ | rfl)
    · exact ⟨subscriber, mem_join.mpr (.inl held), rfl⟩
    · by_cases listed : Listed subscribers current.mConnHandle
      · obtain ⟨subscriber, held, same⟩ := listed
        exact ⟨subscriber, mem_join.mpr (.inl held), same⟩
      · exact ⟨current, mem_join.mpr (.inr ⟨rfl, listed⟩), rfl⟩

end Join

section Leave
open AgpsStateMachine (markInactive)

private theorem markInactive_handles (handle : Int) (subscribers : List AgpsSubscriber) :
    (markInactive handle subscribers).map (·.mConnHandle) = subscribers.map (·.mConnHandle) := by
  induction subscribers with
  | nil => rfl
  | cons subscriber rest ih =>
    unfold markInactive
    split <;> simp [ih]

/-- With distinct handles, marking the first entry with the handle marks the
only one. -/
private theorem mem_markInactive (distinct : Distinct subscribers) :
    subscriber ∈ markInactive handle subscribers ↔
      subscriber ∈ subscribers ∧ subscriber.mConnHandle ≠ handle ∨
        ∃ old ∈ subscribers, old.mConnHandle = handle ∧
          subscriber = { old with mIsInactive := true } := by
  induction subscribers with
  | nil => simp [markInactive]
  | cons first rest ih =>
    obtain ⟨fresh, distinctRest⟩ := List.nodup_cons.mp distinct
    by_cases found : first.mConnHandle = handle
    · have absent : ∀ other ∈ rest, other.mConnHandle ≠ handle := by
        intro other held same
        exact fresh (List.mem_map.mpr ⟨other, held, same.trans found.symm⟩)
      simp only [markInactive, found, if_true, List.mem_cons]
      grind
    · simp only [markInactive, found, if_false, List.mem_cons, ih distinctRest]
      grind

private theorem mem_filter_equals : subscriber ∈ subscribers.filter (!·.equals current) ↔
    subscriber ∈ subscribers ∧ subscriber.mConnHandle ≠ current.mConnHandle := by
  simp [AgpsSubscriber.equals]

theorem leave_distinct (distinct : Distinct subscribers) :
    Distinct (leave current subscribers) := by
  unfold leave
  split
  · unfold Distinct
    rwa [markInactive_handles]
  · exact distinct.sublist (List.filter_sublist.map _)

theorem mem_leave (distinct : Distinct subscribers) (member : current ∈ subscribers) :
    subscriber ∈ leave current subscribers ↔
      subscriber ∈ subscribers ∧ subscriber.mConnHandle ≠ current.mConnHandle ∨
        current.mWaitForCloseComplete = true ∧
          subscriber = { current with mIsInactive := true } := by
  unfold leave
  split
  · next waits =>
    rw [mem_markInactive distinct]
    constructor
    · rintro (other | ⟨old, held, same, rfl⟩)
      · exact .inl other
      · cases equal_of_handle distinct held member same
        exact .inr ⟨waits, rfl⟩
    · rintro (other | ⟨_, rfl⟩)
      · exact .inl other
      · exact .inr ⟨current, member, rfl, rfl⟩
  · next leaves =>
    rw [mem_filter_equals]
    simp [leaves]

theorem holdsActive_leave (distinct : Distinct subscribers) (member : current ∈ subscribers) :
    HoldsActive (leave current subscribers) handle ↔
      HoldsActive subscribers handle ∧ handle ≠ current.mConnHandle := by
  constructor
  · rintro ⟨subscriber, held, rfl, active⟩
    rcases (mem_leave distinct member).mp held with ⟨old, other⟩ | ⟨_, rfl⟩
    · exact ⟨⟨subscriber, old, rfl, active⟩, other⟩
    · cases active
  · rintro ⟨⟨subscriber, held, rfl, active⟩, other⟩
    exact ⟨subscriber, (mem_leave distinct member).mpr (.inl ⟨held, other⟩), rfl, active⟩

theorem holdsInactive_leave (distinct : Distinct subscribers) (member : current ∈ subscribers) :
    HoldsInactive (leave current subscribers) handle ↔
      HoldsInactive subscribers handle ∧ handle ≠ current.mConnHandle ∨
        handle = current.mConnHandle ∧ current.mWaitForCloseComplete = true := by
  constructor
  · rintro ⟨subscriber, held, rfl, inactive⟩
    rcases (mem_leave distinct member).mp held with ⟨old, other⟩ | ⟨waits, rfl⟩
    · exact .inl ⟨⟨subscriber, old, rfl, inactive⟩, other⟩
    · exact .inr ⟨rfl, waits⟩
  · rintro (⟨⟨subscriber, held, rfl, inactive⟩, other⟩ | ⟨rfl, waits⟩)
    · exact ⟨subscriber, (mem_leave distinct member).mpr (.inl ⟨held, other⟩), rfl, inactive⟩
    · exact ⟨_, (mem_leave distinct member).mpr (.inr ⟨waits, rfl⟩), rfl, rfl⟩

end Leave

theorem holdsActive_filter_active : HoldsActive (subscribers.filter (!·.mIsInactive)) handle ↔
    HoldsActive subscribers handle := by
  simp only [HoldsActive, List.mem_filter, Bool.not_eq_true']
  grind

theorem not_holdsInactive_filter_active :
    ¬ HoldsInactive (subscribers.filter (!·.mIsInactive)) handle := by
  simp only [HoldsInactive, List.mem_filter, Bool.not_eq_true']
  grind

/-- What holds of a connection between events. -/
structure Sound (connection : Connection) : Prop where
  distinct : Distinct connection.subscribers
  inactiveWaits : ∀ subscriber ∈ connection.subscribers, subscriber.mIsInactive = true →
    subscriber.mWaitForCloseComplete = true
  released : connection.state = .released → ∀ handle, ¬ HoldsInactive connection.subscribers handle
  connected : connection.state = .pending ∨ connection.state = .acquired →
    ∃ handle, HoldsActive connection.subscribers handle
  releasing : connection.state = .releasing → ∃ handle, HoldsInactive connection.subscribers handle

/-- The current subscriber fits the event: a new one is active, and one that
leaves is listed. -/
def Admits (connection : Connection) (current : AgpsSubscriber) : AgpsEvent → Prop
  | .subscribe => current.mIsInactive = false
  | .unsubscribe => current ∈ connection.subscribers
  | _ => True

section Sound
variable {connection : Connection}

private theorem inactiveWaits_join (sound : connection.Sound) (active : current.mIsInactive = false) :
    ∀ subscriber ∈ join current connection.subscribers, subscriber.mIsInactive = true →
      subscriber.mWaitForCloseComplete = true := by
  intro subscriber held inactive
  rcases mem_join.mp held with old | ⟨rfl, _⟩
  · exact sound.inactiveWaits subscriber old inactive
  · exact absurd inactive (by simp [active])

private theorem inactiveWaits_leave (sound : connection.Sound)
    (member : current ∈ connection.subscribers) :
    ∀ subscriber ∈ leave current connection.subscribers, subscriber.mIsInactive = true →
      subscriber.mWaitForCloseComplete = true := by
  intro subscriber held inactive
  rcases (mem_leave sound.distinct member).mp held with ⟨old, _⟩ | ⟨waits, rfl⟩
  · exact sound.inactiveWaits subscriber old inactive
  · exact waits

theorem joined_active (sound : connection.Sound) (active : current.mIsInactive = false)
    (released : connection.state = .released) :
    HoldsActive (join current connection.subscribers) current.mConnHandle := by
  rw [holdsActive_join active]
  by_cases listed : Listed connection.subscribers current.mConnHandle
  · exact .inl ((listed_iff.mp listed).resolve_right (sound.released released _))
  · exact .inr ⟨rfl, listed⟩

private theorem subscribe_sound (sound : connection.Sound) (active : current.mIsInactive = false)
    (accepted : Bool) : (connection.step accepted current .subscribe).after.Sound := by
  have distinct : Distinct (join current connection.subscribers) := join_distinct sound.distinct
  have waits := inactiveWaits_join sound active
  have stays : ∀ handle, HoldsActive connection.subscribers handle →
      HoldsActive (join current connection.subscribers) handle :=
    fun handle held => (holdsActive_join active).mpr (.inl held)
  cases state : connection.state with
  | released =>
    have joined := joined_active sound active state
    have quiet : ∀ handle, ¬ HoldsInactive (join current connection.subscribers) handle :=
      fun handle held => sound.released state handle ((holdsInactive_join active).mp held)
    cases accepted <;> simp only [step, state]
    · exact ⟨distinct, waits, fun _ => quiet, by simp, by simp⟩
    · exact ⟨distinct, waits, by simp, fun _ => ⟨_, joined⟩, by simp⟩
  | pending =>
    obtain ⟨handle, held⟩ := sound.connected (.inl state)
    simp only [step, state]
    exact ⟨distinct, waits, by simp, fun _ => ⟨handle, stays handle held⟩, by simp⟩
  | acquired =>
    obtain ⟨handle, held⟩ := sound.connected (.inr state)
    simp only [step, state]
    exact ⟨distinct, waits, by simp, fun _ => ⟨handle, stays handle held⟩, by simp⟩
  | releasing =>
    obtain ⟨handle, held⟩ := sound.releasing state
    simp only [step, state]
    exact ⟨distinct, waits, by simp, by simp,
      fun _ => ⟨handle, (holdsInactive_join active).mpr held⟩⟩

/-- A list without active subscribers that is not empty has inactive ones. -/
private theorem some_inactive (filled : subscribers.isEmpty = false)
    (quiet : anyActive subscribers = false) : ∃ handle, HoldsInactive subscribers handle := by
  obtain ⟨subscriber, held⟩ := List.exists_mem_of_ne_nil _ (by simpa using filled)
  simp only [anyActive, List.any_eq_false, Bool.not_eq_true', Bool.not_eq_false] at quiet
  exact ⟨_, subscriber, held, rfl, quiet subscriber held⟩

private theorem not_inactive_of_isEmpty (empty : subscribers.isEmpty = true) (handle : Int) :
    ¬ HoldsInactive subscribers handle := by
  simp [List.isEmpty_iff.mp empty, HoldsInactive]

private theorem unsubscribe_connected (sound : connection.Sound)
    (member : current ∈ connection.subscribers) (state : AgpsState)
    (connected : state = .pending ∨ state = .acquired) :
    Sound (if (leave current connection.subscribers).isEmpty then
        ⟨.released, leave current connection.subscribers⟩
      else if !anyActive (leave current connection.subscribers) then
        ⟨.releasing, leave current connection.subscribers⟩
      else ⟨state, leave current connection.subscribers⟩) := by
  have distinct : Distinct (leave current connection.subscribers) := leave_distinct sound.distinct
  have waits := inactiveWaits_leave sound member
  cases empty : (leave current connection.subscribers).isEmpty with
  | true =>
    exact ⟨distinct, waits, fun _ => not_inactive_of_isEmpty empty, by simp, by simp⟩
  | false =>
    cases active : anyActive (leave current connection.subscribers) with
    | false =>
      exact ⟨distinct, waits, by simp, by simp, fun _ => some_inactive empty active⟩
    | true =>
      refine ⟨distinct, waits, ?_, fun _ => anyActive_iff.mp active, ?_⟩ <;>
        rcases connected with rfl | rfl <;> simp

private theorem unsubscribe_sound (sound : connection.Sound)
    (member : current ∈ connection.subscribers) (accepted : Bool) :
    (connection.step accepted current .unsubscribe).after.Sound := by
  cases state : connection.state with
  | released => simpa only [step, state] using sound
  | pending =>
    have after := unsubscribe_connected sound member .pending (.inl rfl)
    simp only [step, state]
    split_ifs at after ⊢ <;> exact after
  | acquired =>
    have after := unsubscribe_connected sound member .acquired (.inr rfl)
    simp only [step, state]
    split_ifs at after ⊢ <;> exact after
  | releasing =>
    have distinct : Distinct (leave current connection.subscribers) := leave_distinct sound.distinct
    have waits := inactiveWaits_leave sound member
    simp only [step, state]
    cases empty : (leave current connection.subscribers).isEmpty with
    | true =>
      exact ⟨distinct, waits, fun _ => not_inactive_of_isEmpty empty, by simp, by simp⟩
    | false =>
      obtain ⟨handle, held⟩ := sound.releasing state
      refine ⟨distinct, waits, by simp, by simp, fun _ => ⟨handle, ?_⟩⟩
      rw [holdsInactive_leave sound.distinct member]
      by_cases same : handle = current.mConnHandle
      · -- Only a subscriber that waits is inactive, so the one that leaves stays listed.
        subst same
        obtain ⟨subscriber, listed, same, inactive⟩ := held
        cases equal_of_handle sound.distinct listed member same
        exact .inr ⟨rfl, sound.inactiveWaits _ listed inactive⟩
      · exact .inl ⟨held, same⟩

private theorem closed_sound (sound : connection.Sound) :
    (closed connection.subscribers).after.Sound := by
  have distinct : Distinct (connection.subscribers.filter (!·.mIsInactive)) :=
    sound.distinct.sublist (List.filter_sublist.map _)
  have waits : ∀ subscriber ∈ connection.subscribers.filter (!·.mIsInactive),
      subscriber.mIsInactive = true → subscriber.mWaitForCloseComplete = true :=
    fun subscriber held => sound.inactiveWaits subscriber (List.mem_of_mem_filter held)
  unfold closed
  cases active : anyActive connection.subscribers with
  | false =>
    exact ⟨distinct, waits, fun _ _ => not_holdsInactive_filter_active, by simp, by simp⟩
  | true =>
    obtain ⟨handle, held⟩ := anyActive_iff.mp active
    exact ⟨distinct, waits, by simp, fun _ => ⟨handle, holdsActive_filter_active.mpr held⟩,
      by simp⟩

theorem empty_sound : Sound ⟨.released, []⟩ :=
  ⟨List.nodup_nil, by simp, fun _ _ => by simp [HoldsInactive], by simp, by simp⟩

/-- Every event keeps the invariant. -/
theorem step_sound (sound : connection.Sound) (admits : connection.Admits current event)
    (accepted : Bool) : (connection.step accepted current event).after.Sound := by
  cases event with
  | subscribe => exact subscribe_sound sound admits accepted
  | unsubscribe => exact unsubscribe_sound sound admits accepted
  | granted =>
    cases state : connection.state with
    | pending =>
      simp only [step, state]
      exact ⟨sound.distinct, sound.inactiveWaits, by simp,
        fun _ => sound.connected (.inl state), by simp⟩
    | _ => simpa only [step, state] using sound
  | released =>
    cases state : connection.state with
    | acquired => simpa only [step, state] using empty_sound
    | releasing => simpa only [step, state] using closed_sound sound
    | _ => simpa only [step, state] using sound
  | denied =>
    cases state : connection.state with
    | pending => simpa only [step, state] using empty_sound
    | releasing => simpa only [step, state] using closed_sound sound
    | _ => simpa only [step, state] using sound

private theorem filter_active_nil (quiet : anyActive subscribers = false) :
    subscribers.filter (!·.mIsInactive) = [] := by
  simpa [anyActive] using quiet

private theorem closed_empty (after : (closed subscribers).after.state = .released) :
    (closed subscribers).after.subscribers = [] := by
  unfold closed at after ⊢
  cases active : anyActive subscribers with
  | false => exact filter_active_nil active
  | true => simp [active] at after

end Sound

section Calls
variable {connection : Connection}

/-- What a step does to the state, and what it asks for: the ways that a connection is
asked for, given up, reported or left as it is. -/
inductive Moves (connection : Connection) (accepted : Bool) (event : AgpsEvent)
    (reaction : Reaction) : Prop
  | stays (uncalled : reaction.call = none) (state : reaction.after.state = connection.state)
      (ungranted : event = .granted → connection.state ≠ .pending)
  | granted (uncalled : reaction.call = none) (granted : event = .granted)
      (before : connection.state = .pending) (after : reaction.after.state = .acquired)
  | forced (uncalled : reaction.call = none) (released : event = .released)
      (before : connection.state = .acquired) (after : reaction.after.state = .released)
  | denied (uncalled : reaction.call = none) (denied : event = .denied)
      (before : connection.state = .pending) (after : reaction.after.state = .released)
  | drained (uncalled : reaction.call = none) (before : connection.state = .releasing)
      (after : reaction.after.state = .released)
  | asked (called : reaction.call = some true) (subscribed : event = .subscribe)
      (before : connection.state = .released)
      (after : reaction.after.state = if accepted then .pending else .released)
  | reopened (called : reaction.call = some true) (closed : event = .released ∨ event = .denied)
      (before : connection.state = .releasing) (after : reaction.after.state = .pending)
  | givenUp (called : reaction.call = some false)
      (after : reaction.after.state = .released ∨ reaction.after.state = .releasing)
      (nobody : anyActive reaction.after.subscribers = false)

private theorem closed_moves {accepted : Bool} (releasing : connection.state = .releasing)
    (report : event = .released ∨ event = .denied) :
    Moves connection accepted event (closed connection.subscribers) := by
  cases active : anyActive connection.subscribers with
  | true =>
    exact .reopened (by simp [closed, active]) report releasing (by simp [closed, active])
  | false => exact .drained (by simp [closed, active]) releasing (by simp [closed, active])

private theorem leave_moves {accepted : Bool} (left : List AgpsSubscriber)
    (notices : List (AgpsEvent × AgpsSubscriber)) :
    Moves connection accepted .unsubscribe
      (if left.isEmpty then ⟨⟨.released, left⟩, notices, some false⟩
        else if !anyActive left then ⟨⟨.releasing, left⟩, notices, some false⟩
        else ⟨⟨connection.state, left⟩, notices, none⟩) := by
  split
  · next empty =>
    refine .givenUp rfl (.inl rfl) ?_
    simp [List.isEmpty_iff.mp empty, anyActive]
  · split
    · next idle => exact .givenUp rfl (.inr rfl) (by simpa using idle)
    · exact .stays rfl rfl (by simp)

/-- Every step is one of these. -/
theorem step_moves (accepted : Bool) (current : AgpsSubscriber) (connection : Connection)
    (event : AgpsEvent) :
    Moves connection accepted event (connection.step accepted current event) := by
  cases event with
  | subscribe =>
    cases state : connection.state with
    | released =>
      simp only [step, state]
      exact .asked rfl rfl state rfl
    | _ =>
      simp only [step, state]
      exact .stays rfl state.symm (by simp)
  | unsubscribe =>
    cases state : connection.state with
    | released =>
      simp only [step, state]
      exact .stays rfl rfl (by simp)
    | releasing =>
      simp only [step, state]
      cases empty : (leave current connection.subscribers).isEmpty with
      | true => exact .drained rfl state rfl
      | false => exact .stays rfl state.symm (by simp)
    | _ =>
      have moves : Moves connection accepted .unsubscribe _ :=
        leave_moves (leave current connection.subscribers) (leaveNotices current)
      simpa only [step, state] using moves
  | granted =>
    cases state : connection.state with
    | pending =>
      simp only [step, state]
      exact .granted rfl rfl state rfl
    | _ =>
      simp only [step, state]
      exact .stays rfl rfl fun _ => by simp [state]
  | released =>
    cases state : connection.state with
    | acquired =>
      simp only [step, state]
      exact .forced rfl rfl state rfl
    | releasing =>
      simp only [step, state]
      exact closed_moves state (.inl rfl)
    | _ =>
      simp only [step, state]
      exact .stays rfl rfl (by simp)
  | denied =>
    cases state : connection.state with
    | pending =>
      simp only [step, state]
      exact .denied rfl rfl state rfl
    | releasing =>
      simp only [step, state]
      exact closed_moves state (.inr rfl)
    | _ =>
      simp only [step, state]
      exact .stays rfl rfl (by simp)

/-- No connection is wanted, or the last one is being given up. -/
def Quiet (connection : Connection) : Prop :=
  connection.state = .released ∨ connection.state = .releasing

/-- The connection is requested only where none is wanted yet. -/
theorem request_while_quiet {accepted : Bool}
    (called : (connection.step accepted current event).call = some true) :
    connection.Quiet := by
  cases step_moves accepted current connection event with
  | asked _ _ before => exact .inl before
  | reopened _ _ before => exact .inr before
  | stays other | granted other | forced other | denied other | drained other | givenUp other =>
    rw [other] at called
    cases called

/-- Only a new subscriber, or the end of a release, requests the connection. -/
theorem request_on_close {accepted : Bool}
    (called : (connection.step accepted current event).call = some true)
    (other : event ≠ .subscribe) :
    connection.state = .releasing ∧ (event = .released ∨ event = .denied) := by
  cases step_moves accepted current connection event with
  | asked _ subscribed => exact absurd subscribed other
  | reopened _ report before => exact ⟨before, report⟩
  | stays silent | granted silent | forced silent | denied silent | drained silent
  | givenUp silent =>
    rw [silent] at called
    cases called

theorem not_quiet_after_request
    (called : (connection.step true current event).call = some true) :
    ¬ (connection.step true current event).after.Quiet := by
  cases step_moves true current connection event with
  | asked _ _ _ after | reopened _ _ _ after => simp [Quiet, after]
  | stays other | granted other | forced other | denied other | drained other | givenUp other =>
    rw [other] at called
    cases called

/-- Without a command or a report the connection does not become quiet. -/
theorem quiet_before {accepted : Bool} (uncalled : (connection.step accepted current event).call = none)
    (released : event ≠ .released) (denied : event ≠ .denied)
    (quiet : (connection.step accepted current event).after.Quiet) : connection.Quiet := by
  cases step_moves accepted current connection event with
  | stays _ state => simpa only [Quiet, state] using quiet
  | granted _ _ _ after => simp [Quiet, after] at quiet
  | forced _ report => exact absurd report released
  | denied _ report => exact absurd report denied
  | drained _ before => exact .inr before
  | asked other | reopened other | givenUp other =>
    rw [other] at uncalled
    cases uncalled

theorem quiet_after_release {accepted : Bool}
    (called : (connection.step accepted current event).call = some false) :
    (connection.step accepted current event).after.Quiet := by
  cases step_moves accepted current connection event with
  | givenUp _ after => exact after
  | stays other | granted other | forced other | denied other | drained other | asked other
  | reopened other =>
    rw [other] at called
    cases called

/-- Without a command only a forced close or a denial makes a connection
quiet. -/
theorem quiet_iff (uncalled : (connection.step true current event).call = none)
    (unforced : event = .released → connection.state ≠ .acquired) (denied : event ≠ .denied) :
    (connection.step true current event).after.Quiet ↔ connection.Quiet := by
  cases step_moves true current connection event with
  | stays _ state => rw [Quiet, state, Quiet]
  | granted _ _ before after => simp [Quiet, before, after]
  | forced _ report before => exact absurd before (unforced report)
  | denied _ report => exact absurd report denied
  | drained _ before after => exact iff_of_true (.inl after) (.inr before)
  | asked other | reopened other | givenUp other =>
    rw [other] at uncalled
    cases uncalled

theorem pending_after {accepted : Bool}
    (pending : (connection.step accepted current event).after.state = .pending) :
    (connection.step accepted current event).call = some true ∨
      (connection.step accepted current event).call = none ∧ connection.state = .pending ∧
        event ≠ .granted := by
  cases step_moves accepted current connection event with
  | stays uncalled state ungranted =>
    rw [state] at pending
    exact .inr ⟨uncalled, pending, fun granted => ungranted granted pending⟩
  | asked called | reopened called => exact .inl called
  | granted _ _ _ after | forced _ _ _ after | denied _ _ _ after | drained _ _ after =>
    rw [after] at pending
    cases pending
  | givenUp _ after => rcases after with after | after <;> simp [after] at pending

/-- Who is active in `ACQUIRED` has just been told, or was active there
before and stays. -/
theorem active_in_acquired {accepted : Bool} (sound : connection.Sound)
    (admits : connection.Admits current event)
    (acquired : (connection.step accepted current event).after.state = .acquired)
    (active : HoldsActive (connection.step accepted current event).after.subscribers handle) :
    (∃ subscriber, (.granted, subscriber) ∈ (connection.step accepted current event).notices ∧
        subscriber.mConnHandle = handle) ∨
      connection.state = .acquired ∧ HoldsActive connection.subscribers handle ∧
        (event = .unsubscribe → handle ≠ current.mConnHandle) := by
  cases event with
  | subscribe =>
    cases state : connection.state with
    | acquired =>
      simp only [step, state] at active ⊢
      rcases (holdsActive_join admits).mp active with before | ⟨same, _⟩
      · exact .inr ⟨trivial, before, by simp⟩
      · exact .inl ⟨current, by simp, same.symm⟩
    | released => cases accepted <;> simp [step, state] at acquired
    | _ => simp [step, state] at acquired
  | unsubscribe =>
    right
    cases state : connection.state with
    | acquired =>
      have left : HoldsActive (leave current connection.subscribers) handle := by
        simp only [step, state] at active
        grind
      obtain ⟨before, other⟩ := (holdsActive_leave sound.distinct admits).mp left
      exact ⟨rfl, before, fun _ => other⟩
    | _ => simp only [step, state] at acquired; grind
  | granted =>
    cases state : connection.state with
    | pending =>
      simp only [step, state] at active ⊢
      obtain ⟨subscriber, held, same, stays⟩ := active
      exact .inl ⟨subscriber, by simp [tell, held, stays], same⟩
    | acquired =>
      simp only [step, state] at active ⊢
      exact .inr ⟨trivial, active, by simp⟩
    | _ => simp [step, state] at acquired
  | released => cases state : connection.state <;> simp only [step, state, closed] at acquired <;> grind
  | denied =>
    cases state : connection.state with
    | acquired =>
      simp only [step, state] at active ⊢
      exact .inr ⟨trivial, active, by simp⟩
    | _ => simp only [step, state, closed] at acquired; grind

/-- Acceptance matters only to a subscriber that finds `RELEASED`. -/
theorem step_unasked (accepted other : Bool)
    (unasked : event = .subscribe → connection.state ≠ .released) :
    connection.step accepted current event = connection.step other current event := by
  cases event with
  | subscribe => cases state : connection.state <;> simp_all [step]
  | _ => rfl

/-- The connection is given up only when nobody is active. -/
theorem nobody_active_after_release {accepted : Bool}
    (called : (connection.step accepted current event).call = some false) :
    anyActive (connection.step accepted current event).after.subscribers = false := by
  cases step_moves accepted current connection event with
  | givenUp _ _ nobody => exact nobody
  | stays other | granted other | forced other | denied other | drained other | asked other
  | reopened other =>
    rw [other] at called
    cases called

/-- The connection is requested only when somebody is active. -/
theorem somebody_active_after_request {accepted : Bool} (sound : connection.Sound)
    (admits : connection.Admits current event)
    (called : (connection.step accepted current event).call = some true) :
    ∃ handle, HoldsActive (connection.step accepted current event).after.subscribers handle := by
  have completed : anyActive connection.subscribers = true →
      ∃ handle, HoldsActive (connection.subscribers.filter (!·.mIsInactive)) handle := by
    intro active
    obtain ⟨handle, held⟩ := anyActive_iff.mp active
    exact ⟨handle, holdsActive_filter_active.mpr held⟩
  by_cases subscribes : event = .subscribe
  · subst subscribes
    cases state : connection.state with
    | released =>
      simp only [step, state]
      exact ⟨_, joined_active sound admits state⟩
    | _ => simp [step, state] at called
  · obtain ⟨releasing, report⟩ := request_on_close called subscribes
    have reaction : connection.step accepted current event = closed connection.subscribers := by
      rcases report with rfl | rfl <;> simp only [step, releasing]
    rw [reaction] at called ⊢
    cases active : anyActive connection.subscribers with
    | true => exact completed active
    | false => simp [closed, active] at called

/-- Only a new subscriber can be listed in `RELEASED`: what else ends there ends
with nobody, or changes nothing. -/
theorem released_after_other {accepted : Bool} (other : event ≠ .subscribe)
    (released : (connection.step accepted current event).after.state = .released) :
    (connection.step accepted current event).after.subscribers = [] ∨
      (connection.step accepted current event).after = connection := by
  have drained : ∀ left : List AgpsSubscriber, left.isEmpty = true → left = [] :=
    fun left none_left => List.isEmpty_iff.mp none_left
  cases event <;> cases state : connection.state <;> simp only [step, state] at released ⊢ <;>
    grind [closed_empty]

/-- Where every request is accepted, nobody is listed in `RELEASED`. -/
theorem step_keeps_released_empty
    (empty : connection.state = .released → connection.subscribers = [])
    (after : (connection.step true current event).after.state = .released) :
    (connection.step true current event).after.subscribers = [] := by
  by_cases subscribes : event = .subscribe
  · subst subscribes
    cases state : connection.state <;> simp [step, state] at after
  · rcases released_after_other subscribes after with nobody | same
    · exact nobody
    · rw [same] at after ⊢
      exact empty after

/-- Nobody but a new subscriber is told or listed who was not listed before. -/
theorem listed_before {accepted : Bool} (sound : connection.Sound)
    (admits : connection.Admits current event) (other : event ≠ .subscribe) :
    (∀ notice ∈ (connection.step accepted current event).notices,
        Listed connection.subscribers notice.2.mConnHandle) ∧
      ∀ handle, Listed (connection.step accepted current event).after.subscribers handle →
        Listed connection.subscribers handle := by
  have told : ∀ event : AgpsEvent, ∀ some_of : List AgpsSubscriber,
      (∀ subscriber ∈ some_of, subscriber ∈ connection.subscribers) →
      ∀ notice ∈ tell event some_of, Listed connection.subscribers notice.2.mConnHandle := by
    simp only [tell, List.mem_map]
    rintro event some_of within _ ⟨subscriber, held, rfl⟩
    exact ⟨subscriber, within subscriber held, rfl⟩
  have filtered : ∀ keep : AgpsSubscriber → Bool, ∀ handle,
      Listed (connection.subscribers.filter keep) handle →
        Listed connection.subscribers handle := by
    rintro keep handle ⟨subscriber, held, same⟩
    exact ⟨subscriber, List.mem_of_mem_filter held, same⟩
  have completed : (∀ notice ∈ (closed connection.subscribers).notices,
        Listed connection.subscribers notice.2.mConnHandle) ∧
      ∀ handle, Listed (closed connection.subscribers).after.subscribers handle →
        Listed connection.subscribers handle :=
    ⟨told _ _ fun _ => List.mem_of_mem_filter, filtered _⟩
  cases event with
  | subscribe => exact absurd rfl other
  | unsubscribe =>
    have leaving : ∀ notice ∈ leaveNotices current,
        Listed connection.subscribers notice.2.mConnHandle := by
      unfold leaveNotices
      split
      · simp
      · simpa using ⟨current, admits, rfl⟩
    have remaining : ∀ handle, Listed (leave current connection.subscribers) handle →
        Listed connection.subscribers handle := by
      rintro handle ⟨subscriber, held, rfl⟩
      rcases (mem_leave sound.distinct admits).mp held with ⟨old, _⟩ | ⟨_, rfl⟩
      · exact ⟨subscriber, old, rfl⟩
      · exact ⟨current, admits, rfl⟩
    cases state : connection.state with
    | released =>
      simp only [step, state]
      exact ⟨by simpa using ⟨current, admits, rfl⟩, fun _ held => held⟩
    | _ =>
      simp only [step, state]
      grind
  | granted =>
    cases state : connection.state with
    | pending =>
      simp only [step, state]
      exact ⟨told _ _ fun _ => List.mem_of_mem_filter, fun _ held => held⟩
    | _ => simp [step, state]
  | released =>
    cases state : connection.state with
    | acquired =>
      simp only [step, state]
      exact ⟨told _ _ fun _ held => held, by simp [Listed]⟩
    | releasing => simpa only [step, state] using completed
    | _ => simp [step, state]
  | denied =>
    cases state : connection.state with
    | pending =>
      simp only [step, state]
      exact ⟨told _ _ fun _ held => held, by simp [Listed]⟩
    | releasing => simpa only [step, state] using completed
    | _ => simp [step, state]

theorem subscribe_subscribers (accepted : Bool) :
    (connection.step accepted current .subscribe).after.subscribers =
      join current connection.subscribers := by
  cases state : connection.state <;> simp only [step, state]

private theorem unsubscribe_subscribers (accepted : Bool) :
    (connection.step accepted current .unsubscribe).after.subscribers =
      if connection.state = .released then connection.subscribers
      else leave current connection.subscribers := by
  cases state : connection.state with
  | released => rw [if_pos rfl]; simp only [step, state]
  | releasing => rw [if_neg (by decide)]; simp only [step, state]
  | _ =>
    rw [if_neg (by decide)]
    simp only [step, state]
    split_ifs <;> rfl

/-- Only a new subscriber becomes active. -/
theorem active_before {accepted : Bool} (sound : connection.Sound)
    (admits : connection.Admits current event)
    (active : HoldsActive (connection.step accepted current event).after.subscribers handle) :
    HoldsActive connection.subscribers handle ∨
      event = .subscribe ∧ handle = current.mConnHandle ∧ ¬ Listed connection.subscribers handle := by
  have remaining : HoldsActive (leave current connection.subscribers) handle →
      current ∈ connection.subscribers → HoldsActive connection.subscribers handle :=
    fun held member => ((holdsActive_leave sound.distinct member).mp held).1
  have completed : HoldsActive (closed connection.subscribers).after.subscribers handle →
      HoldsActive connection.subscribers handle := holdsActive_filter_active.mp
  cases event with
  | subscribe =>
    rw [subscribe_subscribers] at active
    rcases (holdsActive_join admits).mp active with before | ⟨same, absent⟩
    · exact .inl before
    · exact .inr ⟨rfl, same, absent⟩
  | unsubscribe =>
    left
    rw [unsubscribe_subscribers] at active
    split at active
    · exact active
    · exact remaining active admits
  | granted => left; cases state : connection.state <;> simpa only [step, state] using active
  | released =>
    left
    cases state : connection.state with
    | acquired => simp [step, state, HoldsActive] at active
    | releasing => simp only [step, state] at active; exact completed active
    | _ => simpa only [step, state] using active
  | denied =>
    left
    cases state : connection.state with
    | pending => simp [step, state, HoldsActive] at active
    | releasing => simp only [step, state] at active; exact completed active
    | _ => simpa only [step, state] using active

/-- Who gives up the connection is no longer active, except in `RELEASED`. -/
theorem unsubscribed_is_active_iff {accepted : Bool} (sound : connection.Sound)
    (member : current ∈ connection.subscribers) :
    HoldsActive (connection.step accepted current .unsubscribe).after.subscribers
        current.mConnHandle ↔
      connection.state = .released ∧ HoldsActive connection.subscribers current.mConnHandle := by
  have gone : ¬ HoldsActive (leave current connection.subscribers) current.mConnHandle :=
    fun held => ((holdsActive_leave sound.distinct member).mp held).2 rfl
  rw [unsubscribe_subscribers]
  split
  · next released => simp [released]
  · next connected => simp [connected, gone]

/-- A subscriber requests the connection only in `RELEASED`. -/
theorem subscriber_requests_in_released {accepted : Bool}
    (called : (connection.step accepted current .subscribe).call = some true) :
    connection.state = .released := by
  cases state : connection.state <;> simp [step, state] at called
  rfl

/-- The connection is on its way up or down. -/
def Busy (connection : Connection) : Prop :=
  connection.state = .pending ∨ connection.state = .releasing

instance (connection : Connection) : Decidable connection.Busy :=
  inferInstanceAs (Decidable (_ ∨ _))

/-- A report that the connection is down takes the handle from the list without
a word about its opening. -/
def Drops (connection : Connection) (event : AgpsEvent) (handle : Int) : Prop :=
  event = .released ∧ connection.state = .acquired ∨
    (event = .released ∨ event = .denied) ∧ connection.state = .releasing ∧
      HoldsInactive connection.subscribers handle

private theorem closed_keeps_active (active : HoldsActive connection.subscribers handle) :
    (closed connection.subscribers).after.Busy ∧
      HoldsActive (closed connection.subscribers).after.subscribers handle := by
  have somebody : anyActive connection.subscribers = true := anyActive_iff.mpr ⟨handle, active⟩
  refine ⟨.inl ?_, holdsActive_filter_active.mpr active⟩
  simp only [closed, somebody, if_true]

private theorem leaving_keeps_active (active : HoldsActive (leave current subscribers) handle) :
    (leave current subscribers).isEmpty = false ∧
      (!anyActive (leave current subscribers)) = false := by
  have somebody : anyActive (leave current subscribers) = true :=
    anyActive_iff.mpr ⟨handle, active⟩
  obtain ⟨subscriber, held, _⟩ := active
  refine ⟨?_, by rw [somebody]; rfl⟩
  rw [List.isEmpty_eq_false_iff_exists_mem]
  exact ⟨subscriber, held⟩

/-- Who is active on a busy connection and does not leave stays so, or is told
how its opening has ended. -/
theorem busy_active_after (accepted : Bool) (sound : connection.Sound)
    (admits : connection.Admits current event) (busy : connection.Busy)
    (active : HoldsActive connection.subscribers handle)
    (stays : event = .unsubscribe → handle ≠ current.mConnHandle) :
    ((connection.step accepted current event).after.Busy ∧
        HoldsActive (connection.step accepted current event).after.subscribers handle) ∨
      ∃ notice ∈ (connection.step accepted current event).notices,
        (notice.1 = .granted ∨ notice.1 = .denied) ∧ notice.2.mConnHandle = handle := by
  have unchanged : connection.Busy ∧ HoldsActive connection.subscribers handle := ⟨busy, active⟩
  obtain ⟨subscriber, held, same, inactive⟩ := active
  cases event with
  | subscribe =>
    have joined : HoldsActive (join current connection.subscribers) handle :=
      (holdsActive_join admits).mpr (.inl unchanged.2)
    left
    rcases busy with state | state
    · simp only [step, state]
      exact ⟨.inl rfl, joined⟩
    · simp only [step, state]
      exact ⟨.inr rfl, joined⟩
  | unsubscribe =>
    have left_active := (holdsActive_leave sound.distinct admits).mpr ⟨unchanged.2, stays rfl⟩
    obtain ⟨filled, somebody⟩ := leaving_keeps_active left_active
    left
    rcases busy with state | state
    · simp only [step, state, filled, somebody, Bool.false_eq_true, if_false]
      exact ⟨.inl rfl, left_active⟩
    · simp only [step, state, filled, Bool.false_eq_true, if_false]
      exact ⟨.inr rfl, left_active⟩
  | granted =>
    rcases busy with state | state
    · right
      refine ⟨(.granted, subscriber), ?_, .inl rfl, same⟩
      simp only [step, state]
      exact List.mem_map_of_mem (List.mem_filter.mpr ⟨held, by simp [inactive]⟩)
    · left
      simp only [step, state]
      exact unchanged
  | released =>
    left
    rcases busy with state | state
    · simp only [step, state]
      exact unchanged
    · simp only [step, state]
      exact closed_keeps_active unchanged.2
  | denied =>
    rcases busy with state | state
    · right
      refine ⟨(.denied, subscriber), ?_, .inr rfl, same⟩
      simp only [step, state]
      exact List.mem_map_of_mem held
    · left
      simp only [step, state]
      exact closed_keeps_active unchanged.2

private theorem listed_leave (distinct : Distinct subscribers) (member : current ∈ subscribers)
    (listed : Listed subscribers handle) (other : handle ≠ current.mConnHandle) :
    Listed (leave current subscribers) handle := by
  rcases listed_iff.mp listed with active | inactive
  · exact listed_iff.mpr (.inl ((holdsActive_leave distinct member).mpr ⟨active, other⟩))
  · exact listed_iff.mpr (.inr ((holdsInactive_leave distinct member).mpr (.inl ⟨inactive, other⟩)))

/-- Who is listed and does not leave stays listed, is told a denial, or is
dropped. -/
theorem listed_after (accepted : Bool) (sound : connection.Sound)
    (admits : connection.Admits current event) (listed : Listed connection.subscribers handle)
    (stays : event = .unsubscribe → handle ≠ current.mConnHandle) :
    Listed (connection.step accepted current event).after.subscribers handle ∨
      (∃ notice ∈ (connection.step accepted current event).notices,
        notice.1 = .denied ∧ notice.2.mConnHandle = handle) ∨
      connection.Drops event handle := by
  have completed : connection.state = .releasing → event = .released ∨ event = .denied →
      Listed (closed connection.subscribers).after.subscribers handle ∨
        connection.Drops event handle := by
    intro releasing reports
    rcases listed_iff.mp listed with active | inactive
    · exact .inl (listed_iff.mpr (.inl (closed_keeps_active active).2))
    · exact .inr (.inr ⟨reports, releasing, inactive⟩)
  cases event with
  | subscribe =>
    rw [subscribe_subscribers]
    exact .inl (listed_join.mpr (.inl listed))
  | unsubscribe =>
    rw [unsubscribe_subscribers]
    split
    · exact .inl listed
    · exact .inl (listed_leave sound.distinct admits listed (stays rfl))
  | granted => left; cases state : connection.state <;> simpa only [step, state] using listed
  | released =>
    cases state : connection.state with
    | acquired => exact .inr (.inr (.inl ⟨rfl, state⟩))
    | releasing =>
      simp only [step, state]
      exact (completed state (.inl rfl)).imp_right .inr
    | _ => left; simpa only [step, state] using listed
  | denied =>
    cases state : connection.state with
    | pending =>
      obtain ⟨subscriber, held, same⟩ := listed
      refine .inr (.inl ⟨(.denied, subscriber), ?_, rfl, same⟩)
      simp only [step, state]
      exact List.mem_map_of_mem held
    | releasing =>
      simp only [step, state]
      exact (completed state (.inr rfl)).imp_right .inr
    | _ => left; simpa only [step, state] using listed

/-- Who is dropped is not listed afterwards, and nobody is told of an opening. -/
theorem dropped_after (accepted : Bool) (sound : connection.Sound)
    (drops : connection.Drops event handle) :
    ¬ Listed (connection.step accepted current event).after.subscribers handle ∧
      ∀ notice ∈ (connection.step accepted current event).notices, notice.1 = .released := by
  have told : ∀ subscribers, ∀ notice ∈ tell .released subscribers, notice.1 = .released := by
    simp [tell]
  have completed : HoldsInactive connection.subscribers handle →
      ¬ Listed (closed connection.subscribers).after.subscribers handle := by
    rintro ⟨one, first, rfl, inactive⟩ ⟨other, second, same⟩
    obtain ⟨held, active⟩ := List.mem_filter.mp second
    cases equal_of_handle sound.distinct first held same.symm
    simp [inactive] at active
  rcases drops with ⟨rfl, state⟩ | ⟨rfl | rfl, state, inactive⟩
  · simp only [step, state]
    exact ⟨by simp [Listed], told _⟩
  · simp only [step, state]
    exact ⟨completed inactive, told _⟩
  · simp only [step, state]
    exact ⟨completed inactive, told _⟩

/-- Nobody is active who is listed as inactive. -/
theorem not_active_of_inactive (sound : connection.Sound)
    (inactive : HoldsInactive connection.subscribers handle) :
    ¬ HoldsActive connection.subscribers handle := by
  rintro ⟨one, first, same, active⟩
  obtain ⟨other, second, again, inactive⟩ := inactive
  cases equal_of_handle sound.distinct first second (same.trans again.symm)
  exact absurd active (by simp [inactive])

/-- A denial comes with no call. -/
theorem nobody_denied_with_a_call {accepted : Bool}
    (called : (connection.step accepted current event).call ≠ none) :
    ∀ notice ∈ (connection.step accepted current event).notices, notice.1 ≠ .denied := by
  have left : ∀ notice ∈ leaveNotices current, notice.1 ≠ .denied := by
    unfold leaveNotices
    split <;> simp
  have released : ∀ subscribers, ∀ notice ∈ tell .released subscribers, notice.1 ≠ .denied := by
    simp [tell]
  cases event <;> cases state : connection.state <;> simp only [step, state, closed] at called ⊢ <;>
    grind

end Calls

end Msm8917Common.Agps.Connection
