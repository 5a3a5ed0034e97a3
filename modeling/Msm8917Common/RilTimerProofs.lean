import Msm8917Common.CircularList
import Msm8917Common.RilEventProofs

/-! The timer list of `ril_event.cpp` over calls of `ril_timer_add` and `processTimeouts`.
It stays a ring in the order of the timeouts, and the timers that are due are at its
front. -/
namespace Msm8917Common.Ril.Event
open CircularList

/-! The pointers of a memory -/

def links (node : Memory) : Links Node := ⟨fun ev => (node ev).next, fun ev => (node ev).prev⟩

/-- Nothing but pointers of the lists is different. -/
def OnlyLinks (node after : Memory) : Prop :=
  ∀ ev, after ev = { node ev with next := (after ev).next, prev := (after ev).prev }

section Memory
variable {node after : Memory} {ev list before following : Node}

theorem setPrev_prev (ev : Node) (prev : Option Node) (node : Memory) (other : Node) :
    (setPrev ev prev node other).prev = if other = ev then prev else (node other).prev := by
  by_cases same : other = ev
  · subst same
    simp [setPrev]
  · simp [setPrev, same]

theorem setNext_prev (ev : Node) (next : Option Node) (node : Memory) (other : Node) :
    (setNext ev next node other).prev = (node other).prev := by
  by_cases same : other = ev
  · subst same
    simp [setNext]
  · simp [setNext, same]

theorem OnlyLinks.trans {between : Memory} (first : OnlyLinks node between)
    (second : OnlyLinks between after) : OnlyLinks node after := by
  intro ev
  rw [second ev, first ev]

theorem onlyLinks_setNext (ev : Node) (next : Option Node) (node : Memory) :
    OnlyLinks node (setNext ev next node) := by
  intro other
  by_cases same : other = ev
  · subst same
    simp [setNext]
  · simp [setNext, same]

theorem onlyLinks_setPrev (ev : Node) (prev : Option Node) (node : Memory) :
    OnlyLinks node (setPrev ev prev node) := by
  intro other
  by_cases same : other = ev
  · subst same
    simp [setPrev]
  · simp [setPrev, same]

theorem addToList_inserts (back : (node list).prev = some before) (fresh : ev ≠ list)
    (apart : ev ≠ before) :
    ∃ after, addToList ev list node = some after ∧
      Inserts (links node) before ev list (links after) ∧ OnlyLinks node after := by
  have read : (setPrev ev (setNext ev (some list) node list).prev
      (setNext ev (some list) node) ev).prev = some before := by
    rw [setPrev_prev, if_pos rfl, setNext_prev, back]
  refine ⟨_, by rw [addToList, read], ?_, ?_⟩
  · constructor
    · simp [links, setPrev_next, setNext_next]
    · simp [links, setPrev_next, setNext_next, apart]
    · simp [links, setPrev_prev]
    · simp [links, setPrev_prev, setNext_prev, fresh, back]
    · intro other notBefore notEv
      simp [links, setPrev_next, setNext_next, notBefore, notEv]
    · intro other notList notEv
      simp [links, setPrev_prev, setNext_prev, notList, notEv]
  · exact ((onlyLinks_setNext _ _ _).trans (onlyLinks_setPrev _ _ _)).trans
      ((onlyLinks_setNext _ _ _).trans (onlyLinks_setPrev _ _ _))

theorem removeFromList_removes (back : (node ev).prev = some before)
    (next : (node ev).next = some following) (front : ev ≠ before) (behind : ev ≠ following) :
    ∃ after, removeFromList ev node = some after ∧
      Removes (links node) before ev following (links after) ∧ OnlyLinks node after := by
  have read : (setPrev following (node ev).prev node ev).prev = some before := by
    rw [setPrev_prev, if_neg behind, back]
  refine ⟨_, by rw [removeFromList, next]; simp only [read]; exact rfl, ?_, ?_⟩
  · constructor
    · simp [links, setPrev_next, setNext_next, front.symm, next]
    · simp [links, setPrev_prev, setNext_prev, behind.symm, back]
    · intro other notBefore notEv
      simp [links, setPrev_next, setNext_next, notBefore, notEv]
    · intro other notFollowing notEv
      simp [links, setPrev_prev, setNext_prev, notFollowing, notEv]
  · exact ((onlyLinks_setPrev _ _ _).trans (onlyLinks_setNext _ _ _)).trans
      ((onlyLinks_setNext _ _ _).trans (onlyLinks_setPrev _ _ _))

end Memory

/-! The two lists -/

/-- The ring from a head through these events. -/
def Holds (node : Memory) (head : Node) (events : List Nat) : Prop :=
  Ring (links node) head (events.map .event)

/-- One of the heads leads to the event. -/
def OnList (node : Memory) (ev : Nat) : Prop :=
  ∃ head ∈ [Node.timer_list, .pending_list],
    Relation.ReflTransGen (fun other next => (node other).next = some next) head (.event ev)

def timeout (node : Memory) (ev : Nat) : Timeval := (node (.event ev)).timeout

/-- Both lists are rings without an event in common, and the timers are in order. -/
structure Timers (node : Memory) (timers pending : List Nat) : Prop where
  timer_list : Holds node .timer_list timers
  pending_list : Holds node .pending_list pending
  sorted : timers.Pairwise fun ev later => ¬ (timeout node later).before (timeout node ev)
  nodup : (timers ++ pending).Nodup

theorem Timeval.before_trans {a b c : Timeval} (first : a.before b) (second : b.before c) :
    a.before c := by
  simp only [before] at *
  grind

theorem Timeval.not_before_of_before {a b : Timeval} (first : a.before b) : ¬ b.before a := by
  simp only [before] at *
  grind

theorem Timeval.before_of_before {a b c : Timeval} (late : ¬ b.before a) (early : b.before c) :
    a.before c := by
  simp only [before] at *
  grind

/-- In order, what satisfies a condition that earlier ones share is a front of the list. -/
theorem takeWhile_eq_filter {α : Type*} {condition : α → Bool} {items : List α}
    (shared : items.Pairwise fun first later => condition later = true → condition first = true) :
    items.takeWhile condition = items.filter condition ∧
      items.dropWhile condition = items.filter fun item => !condition item := by
  induction items with
  | nil => exact ⟨rfl, rfl⟩
  | cons first items ih =>
    rw [List.pairwise_cons] at shared
    cases met : condition first with
    | true =>
      obtain ⟨front, back⟩ := ih shared.2
      rw [List.takeWhile_cons_of_pos met, List.dropWhile_cons_of_pos met, front, back]
      simp [met]
    | false =>
      have none : ∀ later ∈ items, condition later = false := fun later member =>
        eq_false_of_ne_true fun late =>
          Bool.false_ne_true (met.symm.trans (shared.1 later member late))
      have empty : items.filter condition = [] :=
        List.filter_eq_nil_iff.mpr fun later member => ne_true_of_eq_false (none later member)
      have all : items.filter (fun item => !condition item) = items :=
        List.filter_eq_self.mpr fun later member => by rw [none later member]; rfl
      simp [met, empty, all]

theorem Timers.due_shared {node : Memory} {timers pending : List Nat}
    (lists : Timers node timers pending) (now : Timeval) :
    timers.Pairwise fun first later =>
      (timeout node later).before now = true → (timeout node first).before now = true :=
  lists.sorted.imp fun late early => Timeval.before_of_before late early

variable {node after : Memory} {timers pending events : List Nat} {head : Node} {ev : Nat}

theorem Timers.onList_iff (lists : Timers node timers pending) :
    OnList node ev ↔ ev ∈ timers ∨ ev ∈ pending := by
  have reached {head : Node} {events : List Nat} (ring : Holds node head events)
      (notEvent : head ≠ .event ev) :
      Relation.ReflTransGen (fun other next => (node other).next = some next) head (.event ev) ↔
        ev ∈ events := by
    have reaches : Relation.ReflTransGen (fun other next => (node other).next = some next) head
        (.event ev) ↔ Node.event ev ∈ head :: events.map .event := ring.reaches_iff
    rw [reaches, List.mem_cons, or_iff_right notEvent.symm,
      List.mem_map_of_injective fun _ _ => Node.event.inj]
  simp only [OnList, List.mem_cons, List.not_mem_nil, or_false, exists_eq_or_imp,
    exists_eq_left, reached lists.timer_list (by simp), reached lists.pending_list (by simp)]

/-- A head has one ring. -/
theorem Holds.unique {others : List Nat} (ring : Holds node head events)
    (other : Holds node head others) : events = others :=
  List.map_injective_iff.mpr (fun _ _ => Node.event.inj) (Ring.unique ring other)

/-! Changing a list -/

/-- What happens to nodes outside leaves a list alone. -/
theorem Holds.congr (ring : Holds node head events)
    (same : ∀ other ∈ head :: events.map .event, after other = node other) :
    Holds after head events :=
  Ring.congr ring (fun other member => congrArg RilEvent.next (same other member))
    fun other member => congrArg RilEvent.prev (same other member)

theorem OnlyLinks.timeout (only : OnlyLinks node after) (ev : Nat) :
    timeout after ev = timeout node ev := by
  rw [Event.timeout, only]
  rfl

theorem OnlyLinks.eq {other : Node} (only : OnlyLinks node after)
    (next : (links after).next other = (links node).next other)
    (prev : (links after).prev other = (links node).prev other) : after other = node other := by
  rw [only other]
  simp only [links] at next prev
  rw [next, prev]

theorem headD_mem_cons {α : Type*} (default : α) (items : List α) :
    items.headD default ∈ default :: items := by
  cases items with
  | nil => exact List.mem_cons_self
  | cons first items => exact List.mem_cons_of_mem _ List.mem_cons_self

/-- In front of any of its events or at its end. -/
theorem Holds.insert {front rest : List Nat} (ring : Holds node head (front ++ rest))
    (fresh : Node.event ev ∉ head :: (front ++ rest).map .event) :
    ∃ after, addToList (.event ev) ((rest.map .event).headD head) node = some after ∧
      Holds after head (front ++ ev :: rest) ∧ OnlyLinks node after ∧
      ∀ other ∉ head :: (front ++ ev :: rest).map .event, after other = node other := by
  rw [Holds, List.map_append] at ring
  rw [List.map_append] at fresh
  have list := headD_mem_cons head (rest.map Node.event)
  have before : (front.map Node.event).getLastD head ∈ head :: front.map .event :=
    List.getLastD_mem_cons
  have listed : (rest.map Node.event).headD head ∈
      head :: (front.map .event ++ rest.map .event) := by
    rw [List.mem_cons] at list ⊢
    exact list.imp_right (List.mem_append_right _)
  have led : (front.map Node.event).getLastD head ∈
      head :: (front.map .event ++ rest.map .event) := by
    rw [← List.cons_append]
    exact List.mem_append_left _ before
  have back : (node ((rest.map .event).headD head)).prev =
      some ((front.map .event).getLastD head) := by
    cases rest with
    | nil =>
      rw [List.map_nil, List.append_nil] at ring
      exact ring.around.prev
    | cons first rest => exact (segment_append.mp ring.around).1.prev
  obtain ⟨after, added, inserts, only⟩ := addToList_inserts back
    (fun same : Node.event ev = _ => fresh (same ▸ listed)) fun same => fresh (same ▸ led)
  refine ⟨after, added, ?_, only, ?_⟩
  · rw [Holds, List.map_append, List.map_cons]
    exact ring.insert fresh inserts
  · intro other outside
    rw [List.map_append, List.map_cons] at outside
    have apart {member : Node} (inside : member ∈ head :: (front.map .event ++ rest.map .event)) :
        other ≠ member := by
      rintro rfl
      apply outside
      rw [List.mem_cons, List.mem_append] at inside ⊢
      exact inside.imp_right (Or.imp_right (List.mem_cons_of_mem _))
    have notEv : other ≠ .event ev := by
      rintro rfl
      exact outside (List.mem_cons_of_mem _ (List.mem_append_right _ List.mem_cons_self))
    exact only.eq (inserts.next_other other (apart led) notEv)
      (inserts.prev_other other (apart listed) notEv)

/-- The first event. -/
theorem Holds.remove {rest : List Nat} (ring : Holds node head (ev :: rest)) :
    ∃ after, removeFromList (.event ev) node = some after ∧ Holds after head rest ∧
      OnlyLinks node after ∧
      ∀ other ∉ head :: (ev :: rest).map .event, after other = node other := by
  obtain ⟨here, linked⟩ := ring.around
  have nodup := ring.nodup
  rw [List.map_cons] at nodup
  have listed := headD_mem_cons head (rest.map Node.event)
  have absent : Node.event ev ∉ head :: rest.map .event := by
    rw [(List.Perm.swap _ _ _).nodup_iff, List.nodup_cons] at nodup
    exact nodup.1
  obtain ⟨after, removed, removes, only⟩ := removeFromList_removes here.2 linked.next
    (fun same => absent (same ▸ List.mem_cons_self)) (fun same => absent (same ▸ listed))
  refine ⟨after, removed, Ring.remove ring removes, only, ?_⟩
  intro other outside
  rw [List.map_cons, List.mem_cons, List.mem_cons, not_or, not_or] at outside
  refine only.eq (removes.next_other other outside.1 outside.2.1)
    (removes.prev_other other ?_ outside.2.1)
  rintro rfl
  rcases List.mem_cons.mp listed with last | inside
  · exact outside.1 last
  · exact outside.2.2 inside

/-! The calls -/

inductive TimerCall where
  | ril_timer_add (ev : Nat) (tv : Option Timeval) (now : Timeval)
  | processTimeouts (now : Timeval)

namespace State

/-- Up to the loop of the call. `processTimeouts` reads the clock and the first timer. -/
def enter (state : State) : TimerCall → State
  | .ril_timer_add ev tv now => state.ril_timer_add ev tv now
  | .processTimeouts now =>
    { state with control := .timeouts ∅ 0 now (state.node .timer_list).next }

/-- Whether a call is in its loop. -/
def underway (state : State) : Bool :=
  state.seeking.isSome ||
    match state.control with
    | .timeouts .. | .readies .. => true
    | _ => false

/-- One turn of that loop. -/
def turn (state : State) : State :=
  if state.seeking.isSome then state.walk else state.loopStep

/-- Where the loop comes to its end. -/
inductive Ends : State → State → Prop where
  | ended {state : State} (idle : state.underway = false) : Ends state state
  | turn {state after : State} (busy : state.underway = true) (rest : Ends state.turn after) :
      Ends state after

/-- Calls one after the other, each of which returns. No event is added that is on a list. -/
inductive Run (start : State) : List TimerCall → State → Prop where
  | start : Run start [] start
  | call {calls : List TimerCall} {state after : State} (run : Run start calls state)
      (call : TimerCall)
      (fresh : ∀ ev tv now, call = .ril_timer_add ev (some tv) now → ¬ OnList state.node ev)
      (ends : Ends (state.enter call) after) : Run start (calls ++ [call]) after

variable {state after : State}

/-- A loop comes to one end only. -/
theorem Ends.unique {other : State} (first : Ends state after) (second : Ends state other) :
    after = other := by
  induction first with
  | ended idle =>
    cases second with
    | ended => rfl
    | turn busy => exact absurd (idle.symm.trans busy) Bool.false_ne_true
  | turn busy _ ih =>
    cases second with
    | ended idle => exact absurd (idle.symm.trans busy) Bool.false_ne_true
    | turn _ rest => exact ih rest

/-! Adding a timer -/

/-- Whether the timer is due before the event that is added. -/
def earlier (node : Memory) (ev timer : Nat) : Bool :=
  (timeout node timer).before (timeout node ev)

theorem notMem_ring {head : Node} {events : List Nat} {ev : Nat} (apart : head ≠ .event ev)
    (fresh : ev ∉ events) : Node.event ev ∉ head :: events.map .event := by
  rw [List.mem_cons, List.mem_map_of_injective fun _ _ => Node.event.inj, not_or]
  exact ⟨apart.symm, fresh⟩

theorem turn_of_seeking {sought : Nat × Option Node} (seeking : state.seeking = some sought) :
    state.turn = state.walk := if_pos (by rw [seeking]; rfl)

theorem turn_of_not_seeking (seeking : state.seeking = none) : state.turn = state.loopStep :=
  if_neg (by rw [seeking]; exact Bool.false_ne_true)

/-- At the end of the list, or at a timer that is not before it, the event is linked in. -/
theorem walk_stops {front rest : List Nat} {ev : Nat}
    (ring : Holds state.node .timer_list (front ++ rest)) (fresh : ev ∉ front ++ rest)
    (idle : { state with seeking := none }.underway = false)
    (seeking : state.seeking = some (ev, some ((rest.map .event).headD .timer_list)))
    (stops : ∀ timer ∈ rest.head?, earlier state.node ev timer = false) :
    ∃ node, Ends state { state with node, seeking := none } ∧
      Holds node .timer_list (front ++ ev :: rest) ∧ OnlyLinks state.node node ∧
      ∀ other ∉ Node.timer_list :: (front ++ ev :: rest).map .event,
        node other = state.node other := by
  obtain ⟨node, added, ring, only, frame⟩ := ring.insert (notMem_ring (by simp) fresh)
  refine ⟨node, .turn (by rw [underway, seeking]; rfl) ?_, ring, only, frame⟩
  have walked : state.turn = { state with node, seeking := none } := by
    rw [turn_of_seeking seeking, walk, seeking]
    simp only [added]
    apply if_neg
    cases rest with
    | nil => exact fun both => both.2 rfl
    | cons timer rest =>
      intro both
      exact absurd ((stops timer rfl).symm.trans both.1) Bool.false_ne_true
  rw [walked]
  exact .ended idle

/-- The walk goes on to the first timer that is not before the new one. -/
theorem walk_ends {front rest : List Nat} {ev : Nat}
    (ring : Holds state.node .timer_list (front ++ rest)) (fresh : ev ∉ front ++ rest)
    (idle : { state with seeking := none }.underway = false)
    (seeking : state.seeking = some (ev, some ((rest.map .event).headD .timer_list))) :
    ∃ node, Ends state { state with node, seeking := none } ∧
      Holds node .timer_list (front ++ (rest.takeWhile (earlier state.node ev) ++
        ev :: rest.dropWhile (earlier state.node ev))) ∧
      OnlyLinks state.node node ∧
      ∀ other ∉ Node.timer_list :: (front ++ ev :: rest).map .event,
        node other = state.node other := by
  induction rest generalizing front state with
  | nil => exact walk_stops ring fresh idle seeking nofun
  | cons timer rest ih =>
    cases early : earlier state.node ev timer with
    | false =>
      rw [List.takeWhile_cons_of_neg (ne_true_of_eq_false early),
        List.dropWhile_cons_of_neg (ne_true_of_eq_false early)]
      apply walk_stops ring fresh idle seeking
      intro first here
      cases here
      exact early
    | true =>
      have around := ring.around
      rw [List.map_append, List.map_cons] at around
      have following := (segment_append.mp around).2.next
      let on : State :=
        { state with seeking := some (ev, some ((rest.map .event).headD .timer_list)) }
      have walked : state.turn = on := by
        rw [turn_of_seeking seeking, walk, seeking]
        exact (if_pos ⟨early, nofun⟩).trans (by simp only [on, ← following]; rfl)
      rw [List.append_cons] at ring fresh
      obtain ⟨node, ends, ring, only, frame⟩ :=
        ih (show Holds on.node _ _ from ring) fresh idle (show on.seeking = _ from rfl)
      rw [List.takeWhile_cons_of_pos early, List.dropWhile_cons_of_pos early]
      refine ⟨node, .turn (by rw [underway, seeking]; rfl) (walked ▸ ends), ?_, only, ?_⟩
      · rw [List.append_assoc] at ring
        exact ring
      · intro other outside
        apply frame other
        intro member
        apply outside
        revert member
        simp only [List.map_append, List.map_cons, List.mem_cons, List.mem_append]
        tauto

/-! Timers that are due -/

/-- Whether the time of the timer has come. -/
def due (node : Memory) (now : Timeval) (timer : Nat) : Bool := (timeout node timer).before now

theorem ring_disjoint {head otherHead : Node} {events others : List Nat}
    (heads : head ≠ otherHead) (head_notEvent : ∀ ev, head ≠ .event ev)
    (other_notEvent : ∀ ev, otherHead ≠ .event ev) (disjoint : ∀ ev ∈ events, ev ∉ others) :
    ∀ node ∈ head :: events.map .event, node ∉ otherHead :: others.map .event := by
  intro node member
  rcases List.mem_cons.mp member with rfl | inside
  · rw [List.mem_cons, not_or]
    refine ⟨heads, fun listed => ?_⟩
    obtain ⟨ev, -, same⟩ := List.mem_map.mp listed
    exact head_notEvent ev same.symm
  · obtain ⟨ev, listed, rfl⟩ := List.mem_map.mp inside
    exact notMem_ring (other_notEvent ev) (disjoint ev listed)

/-- A ring stays as it is while only the other, with other events, changes. -/
theorem holds_apart {node after : Memory} {head otherHead : Node} {events others : List Nat}
    (holds : Holds node head events) (heads : head ≠ otherHead)
    (head_notEvent : ∀ ev, head ≠ .event ev) (other_notEvent : ∀ ev, otherHead ≠ .event ev)
    (disjoint : ∀ ev ∈ events, ev ∉ others)
    (frame : ∀ other ∉ otherHead :: others.map .event, after other = node other) :
    Holds after head events := by
  apply holds.congr
  intro other member
  exact frame other (ring_disjoint heads head_notEvent other_notEvent disjoint other member)

/-- The first timer goes to the end of the pending list. -/
theorem moved_to_pending {node : Memory} {timer : Nat} {timers pending : List Nat}
    (timer_list : Holds node .timer_list (timer :: timers))
    (pending_list : Holds node .pending_list pending)
    (nodup : (timer :: timers ++ pending).Nodup) :
    ∃ after, (removeFromList (.event timer) node).bind
        (addToList (.event timer) .pending_list) = some after ∧
      Holds after .timer_list timers ∧ Holds after .pending_list (pending ++ [timer]) ∧
      OnlyLinks node after := by
  rw [List.cons_append, List.nodup_cons, List.mem_append, not_or] at nodup
  obtain ⟨⟨notTimer, notPending⟩, inner⟩ := nodup
  have apart := List.disjoint_of_nodup_append inner
  obtain ⟨between, removed, timer_list, only, frame⟩ := timer_list.remove
  have pending_list : Holds between .pending_list (pending ++ []) := by
    rw [List.append_nil]
    refine holds_apart pending_list (by decide) (by nofun) (by nofun) (fun ev pends listed => ?_)
      frame
    rcases List.mem_cons.mp listed with rfl | later
    · exact notPending pends
    · exact apart later pends
  have fresh : Node.event timer ∉ Node.pending_list :: (pending ++ []).map .event :=
    notMem_ring nofun (by rwa [List.append_nil])
  obtain ⟨after, added, pending_list, also, frame⟩ := pending_list.insert fresh
  refine ⟨after, by rw [removed]; exact added, ?_, pending_list, only.trans also⟩
  refine holds_apart timer_list (by decide) (by nofun) (by nofun) (fun ev listed pends => ?_) frame
  rcases List.mem_append.mp pends with pends | same
  · exact apart listed pends
  · exact notTimer (List.mem_singleton.mp same ▸ listed)

variable {rfds : Finset Int} {n : Nat} {now : Timeval}

theorem turn_of_timeouts {tev : Option Node} (seeking : state.seeking = none)
    (control : state.control = .timeouts rfds n now tev) :
    state.turn = state.processTimeouts rfds n now tev := by
  rw [turn_of_not_seeking seeking, loopStep, control]

theorem underway_of_timeouts {tev : Option Node}
    (control : state.control = .timeouts rfds n now tev) : state.underway = true := by
  rw [underway, control]
  exact Bool.or_true _

/-- At the end of the list, or at a timer that is not due, the loop ends. -/
theorem timeouts_stop {tev : Node} (seeking : state.seeking = none)
    (control : state.control = .timeouts rfds n now (some tev))
    (late : ¬ (tev ≠ .timer_list ∧ (state.node tev).timeout.before now)) :
    Ends state { state with control := .timedOut rfds n } := by
  apply Ends.turn (underway_of_timeouts control)
  rw [turn_of_timeouts seeking control, processTimeouts, if_neg late]
  apply Ends.ended
  rw [underway, seeking]
  rfl

/-- The first timer is taken to the end of the pending list as long as it is due. -/
theorem timeouts_end {timers pending : List Nat}
    (timer_list : Holds state.node .timer_list timers)
    (pending_list : Holds state.node .pending_list pending) (nodup : (timers ++ pending).Nodup)
    (seeking : state.seeking = none)
    (control : state.control =
      .timeouts rfds n now (some ((timers.map .event).headD .timer_list))) :
    ∃ node, Ends state { state with node, control := .timedOut rfds n } ∧
      Holds node .timer_list (timers.dropWhile (due state.node now)) ∧
      Holds node .pending_list (pending ++ timers.takeWhile (due state.node now)) ∧
      OnlyLinks state.node node := by
  induction timers generalizing state pending with
  | nil =>
    refine ⟨state.node, timeouts_stop seeking control fun both => both.1 rfl, timer_list, ?_,
      fun _ => rfl⟩
    rwa [List.takeWhile_nil, List.append_nil]
  | cons timer timers ih =>
    cases early : due state.node now timer with
    | false =>
      have late := ne_true_of_eq_false early
      rw [List.takeWhile_cons_of_neg late, List.dropWhile_cons_of_neg late, List.append_nil]
      exact ⟨state.node, timeouts_stop seeking control fun both => late both.2, timer_list,
        pending_list, fun _ => rfl⟩
    | true =>
      have following := timer_list.around.2.next
      obtain ⟨node, moved, timer_list, pending_list, only⟩ :=
        moved_to_pending timer_list pending_list nodup
      let on : State := { state with
        node
        control := .timeouts rfds n now (some ((timers.map .event).headD .timer_list)) }
      have walked : state.turn = on := by
        rw [turn_of_timeouts seeking control, processTimeouts]
        refine (if_pos ⟨nofun, early⟩).trans ?_
        simp only [List.map_cons, List.headD_cons, moved, on, ← following]
        rfl
      have same : due on.node now = due state.node now := by
        funext timer
        rw [due, due, only.timeout]
      have nodup : (timers ++ (pending ++ [timer])).Nodup := by
        rw [← List.append_assoc, (List.perm_append_singleton _ _).nodup_iff]
        exact nodup
      obtain ⟨after, ends, left, fired, also⟩ :=
        ih (show Holds on.node _ _ from timer_list) pending_list nodup seeking rfl
      rw [same, List.append_assoc] at fired
      rw [same] at left
      rw [List.takeWhile_cons_of_pos early, List.dropWhile_cons_of_pos early]
      exact ⟨after, .turn (underway_of_timeouts control) (walked ▸ ends), left, fired,
        only.trans also⟩

/-! What the calls leave -/

theorem idle_seeking (idle : state.underway = false) : state.seeking = none := by
  rw [underway, Bool.or_eq_false_iff] at idle
  exact Option.isSome_eq_false_iff.mp idle.1 |> Option.isNone_iff_eq_none.mp

/-- What is kept together with what is taken is everything, each once. -/
theorem filter_perm {α : Type*} (condition : α → Bool) (items rest : List α) :
    (items.filter (fun item => !condition item) ++ (rest ++ items.filter condition)).Perm
      (items ++ rest) := by
  have parts := List.perm_append_comm.trans (List.filter_append_perm condition items)
  have front := parts.append_right rest
  rw [List.append_assoc] at front
  exact (List.perm_append_comm.append_left _).trans front

/-- What is due is moved, and nothing else. -/
theorem processTimeouts_returns {timers pending : List Nat}
    (lists : Timers state.node timers pending) (idle : state.underway = false) (now : Timeval) :
    ∃ node, Ends (state.enter (.processTimeouts now))
        { state with node, control := .timedOut ∅ 0 } ∧
      Timers node (timers.filter fun timer => !due state.node now timer)
        (pending ++ timers.filter (due state.node now)) ∧
      OnlyLinks state.node node := by
  have following := lists.timer_list.around.next
  obtain ⟨front, back⟩ := takeWhile_eq_filter (lists.due_shared now)
  let entered : State := state.enter (.processTimeouts now)
  have control : entered.control =
      .timeouts ∅ 0 now (some ((timers.map .event).headD .timer_list)) := by
    rw [← following]
    rfl
  have quiet := idle_seeking idle
  have seeking : entered.seeking = none := quiet
  obtain ⟨node, ends, timer_list, pending_list, only⟩ :=
    timeouts_end (show Holds entered.node _ _ from lists.timer_list) lists.pending_list
      lists.nodup seeking control
  refine ⟨node, ends, ⟨back ▸ timer_list, front ▸ pending_list, ?_, ?_⟩, only⟩
  · have same : timeout node = timeout state.node := funext only.timeout
    rw [same]
    exact lists.sorted.filter _
  · exact (filter_perm _ _ _).nodup_iff.mpr lists.nodup

/-- The list with the event behind those that are due before it. -/
def inserted (deadline : Nat → Timeval) (time : Timeval) (ev : Nat) (timers : List Nat) :
    List Nat :=
  timers.filter (fun timer => (deadline timer).before time) ++
    ev :: timers.filter fun timer => !(deadline timer).before time

theorem inserted_perm (deadline : Nat → Timeval) (time : Timeval) (ev : Nat) (timers : List Nat) :
    (inserted deadline time ev timers).Perm (ev :: timers) :=
  List.perm_middle.trans ((List.filter_append_perm _ timers).cons ev)

theorem inserted_congr {deadline other : Nat → Timeval} {timers : List Nat}
    (same : ∀ timer ∈ timers, other timer = deadline timer) (time : Timeval) (ev : Nat) :
    inserted deadline time ev timers = inserted other time ev timers := by
  have early (timer : Nat) (member : timer ∈ timers) :
      (deadline timer).before time = (other timer).before time := by
    rw [same timer member]
  rw [inserted, inserted, List.filter_congr early,
    List.filter_congr fun timer member => congrArg not (early timer member)]

/-- There the event leaves the list in order. -/
theorem inserted_sorted {deadline : Nat → Timeval} {time : Timeval} {ev : Nat} {timers : List Nat}
    (own : deadline ev = time)
    (sorted : timers.Pairwise fun first later => ¬ (deadline later).before (deadline first)) :
    (inserted deadline time ev timers).Pairwise fun first later =>
      ¬ (deadline later).before (deadline first) := by
  rw [inserted, List.pairwise_append, List.pairwise_cons, own]
  refine ⟨sorted.filter _, ⟨fun later inLater => ?_, sorted.filter _⟩,
    fun first inFirst later inLater => ?_⟩
  · obtain ⟨-, late⟩ := List.mem_filter.mp inLater
    rw [Bool.not_eq_true'] at late
    exact ne_true_of_eq_false late
  · obtain ⟨-, early⟩ := List.mem_filter.mp inFirst
    rcases List.mem_cons.mp inLater with rfl | behind
    · rw [own]
      exact Timeval.not_before_of_before early
    · obtain ⟨-, late⟩ := List.mem_filter.mp behind
      intro before
      rw [Bool.not_eq_true'] at late
      exact Bool.false_ne_true (late.symm.trans (Timeval.before_trans before early))

/-! `ril_timer_add` itself writes the time of its event. -/

theorem links_ril_timer_add (ev : Nat) (tv now : Timeval) :
    links (state.enter (.ril_timer_add ev (some tv) now)).node = links state.node := by
  simp only [enter, State.ril_timer_add, links, Links.mk.injEq]
  constructor
  · funext other
    by_cases same : other = .event ev <;> simp [same]
  · funext other
    by_cases same : other = .event ev <;> simp [same]

theorem timeout_ril_timer_add (ev : Nat) (tv now : Timeval) (other : Nat) :
    timeout (state.enter (.ril_timer_add ev (some tv) now)).node other =
      if other = ev then timeradd now tv else timeout state.node other := by
  simp only [enter, State.ril_timer_add, timeout]
  by_cases same : other = ev <;> simp [same]

/-- The timer comes behind those that are due before it. -/
theorem ril_timer_add_returns {timers pending : List Nat} {ev : Nat}
    (lists : Timers state.node timers pending) (fresh : ¬ (ev ∈ timers ∨ ev ∈ pending))
    (idle : state.underway = false) (tv now : Timeval) :
    ∃ node, Ends (state.enter (.ril_timer_add ev (some tv) now))
        { state with node, deleted := state.deleted.erase ev } ∧
      Timers node (inserted (timeout state.node) (timeradd now tv) ev timers) pending ∧
      ∀ other, timeout node other =
        if other = ev then timeradd now tv else timeout state.node other := by
  rw [not_or] at fresh
  let entered : State := state.enter (.ril_timer_add ev (some tv) now)
  have linked : links entered.node = links state.node := links_ril_timer_add ev tv now
  have timeouts : ∀ other, timeout entered.node other =
      if other = ev then timeradd now tv else timeout state.node other :=
    timeout_ril_timer_add ev tv now
  have others (timer : Nat) (member : timer ∈ timers) : timer ≠ ev :=
    fun same => fresh.1 (same ▸ member)
  have earlier_iff (timer : Nat) (member : timer ∈ timers) : earlier entered.node ev timer =
      (timeout state.node timer).before (timeradd now tv) := by
    rw [earlier, timeouts, timeouts, if_pos rfl, if_neg (others timer member)]
  have shared : timers.Pairwise fun first later =>
      earlier entered.node ev later = true → earlier entered.node ev first = true := by
    apply (lists.due_shared (timeradd now tv)).imp_of_mem
    intro first later inFirst inLater
    rw [earlier_iff first inFirst, earlier_iff later inLater]
    exact fun shared => shared
  have timer_list : Holds entered.node .timer_list ([] ++ timers) := by
    rw [Holds, linked]
    exact lists.timer_list
  have pending_list : Holds entered.node .pending_list pending := by
    rw [Holds, linked]
    exact lists.pending_list
  have seeking : entered.seeking =
      some (ev, some ((timers.map .event).headD .timer_list)) := by
    rw [← lists.timer_list.around.next]
    rfl
  have quiet : { entered with seeking := none }.underway = false := by
    rw [underway, Bool.or_eq_false_iff] at idle
    exact Bool.or_eq_false_iff.mpr ⟨rfl, idle.2⟩
  obtain ⟨node, ends, ring, only, frame⟩ := walk_ends timer_list fresh.1 quiet seeking
  obtain ⟨front, back⟩ := takeWhile_eq_filter shared
  rw [front, back, List.nil_append, List.filter_congr earlier_iff,
    List.filter_congr fun timer member => congrArg not (earlier_iff timer member)] at ring
  have after (other : Nat) : timeout node other =
      if other = ev then timeradd now tv else timeout state.node other := by
    rw [only.timeout, timeouts]
  have kept (timer : Nat) (member : timer ∈ timers) :
      timeout node timer = timeout state.node timer :=
    (after timer).trans (if_neg (others timer member))
  have ended : ({ entered with node, seeking := none } : State) =
      { state with node, deleted := state.deleted.erase ev } := by
    simp only [entered, enter, State.ril_timer_add, idle_seeking idle]
  refine ⟨node, ended ▸ ends, ⟨ring, ?_, ?_, ?_⟩, after⟩
  · refine holds_apart pending_list (by decide) (by nofun) (by nofun)
      (fun pends inPending listed => ?_) frame
    rcases List.mem_cons.mp listed with rfl | inTimers
    · exact fresh.2 inPending
    · exact List.disjoint_of_nodup_append lists.nodup inTimers inPending
  · have sorted : timers.Pairwise fun first later =>
        ¬ (timeout node later).before (timeout node first) := by
      apply lists.sorted.imp_of_mem
      intro first later inFirst inLater
      rw [kept first inFirst, kept later inLater]
      exact fun late => late
    rw [inserted_congr kept]
    exact inserted_sorted ((after ev).trans (if_pos rfl)) sorted
  · rw [((inserted_perm _ _ ev timers).append_right pending).nodup_iff, List.cons_append,
      List.nodup_cons, List.mem_append]
    exact ⟨not_or.mpr fresh, lists.nodup⟩

/-! Runs -/

/-- What a call leaves, which comes to its end. -/
def Leaves (state : State) (call : TimerCall) (left : State → Prop) : Prop :=
  ∃ after, (∀ other, Ends (state.enter call) other ↔ other = after) ∧ left after

theorem leaves_of_ends {call : TimerCall} {left : State → Prop}
    (ends : Ends (state.enter call) after) (holds : left after) : Leaves state call left :=
  ⟨after, fun _ => ⟨fun also => also.unique ends, fun same => same ▸ ends⟩, holds⟩

/-- No call is in its loop, none has followed a null pointer, and the lists have exactly the
timers that were added, each with its deadline. -/
structure Steady (calls : List TimerCall) (state : State) (timers pending : List Nat) : Prop where
  idle : state.underway = false
  uncrashed : state.control ≠ .crashed
  lists : Timers state.node timers pending
  added : ∀ ev, ev ∈ timers ∨ ev ∈ pending ↔
    ∃ tv now, .ril_timer_add ev (some tv) now ∈ calls
  deadline : ∀ ev tv now, .ril_timer_add ev (some tv) now ∈ calls →
    timeout state.node ev = timeradd now tv

theorem steady_initial (fd : Nat → Int) (persist : Nat → Bool) :
    Steady [] (initial fd persist) [] [] := by
  refine ⟨rfl, nofun, ⟨⟨⟨rfl, rfl⟩, ?_⟩, ⟨⟨rfl, rfl⟩, ?_⟩, List.Pairwise.nil, List.nodup_nil⟩,
    by simp, nofun⟩
  · exact List.nodup_singleton _
  · exact List.nodup_singleton _

theorem steady_processTimeouts {calls : List TimerCall} {timers pending : List Nat}
    (steady : Steady calls state timers pending) (now : Timeval) :
    ∃ after, Ends (state.enter (.processTimeouts now)) after ∧
      Steady (calls ++ [.processTimeouts now]) after
        (timers.filter fun timer => !due state.node now timer)
        (pending ++ timers.filter (due state.node now)) := by
  obtain ⟨node, ends, lists, only⟩ := processTimeouts_returns steady.lists steady.idle now
  refine ⟨_, ends, ?_, nofun, lists, fun ev => ?_, fun ev tv added called => ?_⟩
  · rw [underway, idle_seeking steady.idle]
    rfl
  · have parts := (filter_perm (due state.node now) timers pending).mem_iff (a := ev)
    rw [List.mem_append, List.mem_append (s := timers)] at parts
    rw [parts, steady.added]
    simp
  · rw [List.mem_append, List.mem_singleton, or_iff_left nofun] at called
    rw [only.timeout, steady.deadline ev tv added called]

theorem steady_ril_timer_add {calls : List TimerCall} {timers pending : List Nat} {ev : Nat}
    (steady : Steady calls state timers pending) (fresh : ¬ OnList state.node ev)
    (tv now : Timeval) :
    ∃ after, Ends (state.enter (.ril_timer_add ev (some tv) now)) after ∧
      Steady (calls ++ [.ril_timer_add ev (some tv) now]) after
        (inserted (timeout state.node) (timeradd now tv) ev timers) pending := by
  rw [steady.lists.onList_iff] at fresh
  obtain ⟨node, ends, lists, after⟩ :=
    ril_timer_add_returns steady.lists fresh steady.idle tv now
  refine ⟨_, ends, steady.idle, steady.uncrashed, lists, fun other => ?_,
    fun other tv' added called => ?_⟩
  · rw [(inserted_perm _ _ ev timers).mem_iff, List.mem_cons, or_assoc, steady.added]
    simp only [List.mem_append, List.mem_singleton, TimerCall.ril_timer_add.injEq,
      Option.some.injEq]
    constructor
    · rintro (same | ⟨tv', now', called⟩)
      · exact ⟨tv, now, .inr ⟨same, rfl, rfl⟩⟩
      · exact ⟨tv', now', .inl called⟩
    · rintro ⟨tv', now', called | ⟨same, -, -⟩⟩
      · exact .inr ⟨tv', now', called⟩
      · exact .inl same
  · rw [List.mem_append, List.mem_singleton] at called
    rcases called with before | last
    · have other : other ≠ ev := fun same =>
        fresh (same ▸ (steady.added other).mpr ⟨tv', added, before⟩)
      rw [after, if_neg other, steady.deadline _ tv' added before]
    · cases last
      rw [after, if_pos rfl]

/-- Without a time nothing is added. -/
theorem steady_no_time {calls : List TimerCall} {timers pending : List Nat}
    (steady : Steady calls state timers pending) (ev : Nat) (now : Timeval) :
    Steady (calls ++ [.ril_timer_add ev none now]) state timers pending := by
  refine ⟨steady.idle, steady.uncrashed, steady.lists, fun other => ?_,
    fun other tv added called => ?_⟩
  · rw [steady.added]
    simp
  · rw [List.mem_append, List.mem_singleton, or_iff_left (by simp)] at called
    exact steady.deadline other tv added called

/-- After each call of a run the lists are as they should be. -/
theorem steady_run {fd : Nat → Int} {persist : Nat → Bool} {calls : List TimerCall}
    (run : Run (initial fd persist) calls state) :
    ∃ timers pending, Steady calls state timers pending := by
  induction run with
  | start => exact ⟨[], [], steady_initial fd persist⟩
  | call run call fresh ends ih =>
    obtain ⟨timers, pending, steady⟩ := ih
    cases call with
    | processTimeouts now =>
      obtain ⟨after, returned, steady⟩ := steady_processTimeouts steady now
      exact ⟨_, _, ends.unique returned ▸ steady⟩
    | ril_timer_add ev tv now =>
      cases tv with
      | some tv =>
        obtain ⟨after, returned, steady⟩ :=
          steady_ril_timer_add steady (fresh ev tv now rfl) tv now
        exact ⟨_, _, ends.unique returned ▸ steady⟩
      | none =>
        cases ends with
        | ended => exact ⟨_, _, steady_no_time steady ev now⟩
        | turn busy => exact absurd (steady.idle.symm.trans busy) Bool.false_ne_true

/-- In every run the timer list is a ring in the order of the timeouts, and no timer is on
both lists or on none. A call returns: a timer that is added comes behind those that are due
before it, and what `processTimeouts` moves is what is due, in order. -/
theorem timers_fire_when_due (fd : Nat → Int) (persist : Nat → Bool) {calls : List TimerCall}
    (run : Run (initial fd persist) calls state) :
    ∃ timers pending, Steady calls state timers pending ∧
      (∀ ev tv now, ¬ OnList state.node ev →
        Leaves state (.ril_timer_add ev (some tv) now) fun after =>
          Timers after.node
            (timers.filter (fun timer => (timeout state.node timer).before (timeradd now tv)) ++
              ev :: timers.filter fun timer =>
                !(timeout state.node timer).before (timeradd now tv)) pending) ∧
      ∀ now, Leaves state (.processTimeouts now) fun after =>
        Timers after.node
          (timers.filter fun timer => !(timeout state.node timer).before now)
          (pending ++ timers.filter fun timer => (timeout state.node timer).before now) := by
  obtain ⟨timers, pending, steady⟩ := steady_run run
  refine ⟨timers, pending, steady, fun ev tv now fresh => ?_, fun now => ?_⟩
  · obtain ⟨after, ends, left⟩ := steady_ril_timer_add steady fresh tv now
    exact leaves_of_ends ends left.lists
  · obtain ⟨after, ends, left⟩ := steady_processTimeouts steady now
    exact leaves_of_ends ends left.lists

/-- One timer for 5 and one for 12. A third for 7 comes between them, and at 9 the first
of the two is due. -/
theorem the_timer_that_is_due_is_moved : ∃ state,
    Run (initial (fun _ => 5) fun _ => false)
      [.ril_timer_add 1 (some ⟨2, 0⟩) ⟨3, 0⟩, .ril_timer_add 2 (some ⟨9, 0⟩) ⟨3, 0⟩] state ∧
    Leaves state (.ril_timer_add 3 (some ⟨4, 0⟩) ⟨3, 0⟩)
      (fun after => Timers after.node [1, 3, 2] []) ∧
    Leaves state (.processTimeouts ⟨9, 0⟩) fun after => Timers after.node [2] [1] := by
  have steady := steady_initial (fun _ => 5) fun _ => false
  have fresh : ¬ OnList (initial (fun _ => 5) fun _ => false).node 1 := by
    rw [steady.lists.onList_iff]
    simp
  obtain ⟨first, firstEnds, steady⟩ := steady_ril_timer_add steady fresh ⟨2, 0⟩ ⟨3, 0⟩
  have fresh' : ¬ OnList first.node 2 := by
    rw [steady.lists.onList_iff]
    simp [inserted]
  have one : timeout first.node 1 = ⟨5, 0⟩ := steady.deadline 1 ⟨2, 0⟩ ⟨3, 0⟩ (by simp)
  obtain ⟨state, ends, steady⟩ := steady_ril_timer_add steady fresh' ⟨9, 0⟩ ⟨3, 0⟩
  have run : Run (initial (fun _ => 5) fun _ => false) _ state :=
    .call (.call .start (.ril_timer_add 1 (some ⟨2, 0⟩) ⟨3, 0⟩)
      (by rintro ev tv now same; cases same; exact fresh) firstEnds)
      (.ril_timer_add 2 (some ⟨9, 0⟩) ⟨3, 0⟩)
      (by rintro ev tv now same; cases same; exact fresh') ends
  have both : inserted (timeout first.node) (timeradd ⟨3, 0⟩ ⟨9, 0⟩) 2
      (inserted (timeout (initial (fun _ => 5) fun _ => false).node) (timeradd ⟨3, 0⟩ ⟨2, 0⟩) 1 [])
      = [1, 2] := by
    simp [inserted, one, Timeval.before, timeradd]
  rw [both] at steady
  obtain ⟨timers, pending, known, adds, moves⟩ :=
    timers_fire_when_due (fun _ => 5) (fun _ => false) run
  obtain rfl := known.lists.timer_list.unique steady.lists.timer_list
  obtain rfl := known.lists.pending_list.unique steady.lists.pending_list
  have one : timeout state.node 1 = ⟨5, 0⟩ := known.deadline 1 ⟨2, 0⟩ ⟨3, 0⟩ (by simp)
  have two : timeout state.node 2 = ⟨12, 0⟩ := known.deadline 2 ⟨9, 0⟩ ⟨3, 0⟩ (by simp)
  have third : ¬ OnList state.node 3 := by
    rw [known.lists.onList_iff]
    simp
  have added := adds 3 ⟨4, 0⟩ ⟨3, 0⟩ third
  have moved := moves ⟨9, 0⟩
  simp only [List.filter_cons, List.filter_nil, one, two] at added moved
  exact ⟨state, run, added, moved⟩

end State

end Msm8917Common.Ril.Event
