import Mathlib.Data.List.Induction
import Msm8917Common.SystemStatus

/-! `mAllTypes` of the newest network report against the events that made it. Every
event is collated with the last report, except the first, which finds none: a first
event that disconnects is stored with the bit of its type set. -/
namespace Msm8917Common.Status.ConnectedTypesProofs
open SystemStatusNetworkInfo

/-- A call of `eventConnectionStatus` with a type that has a bit. -/
structure ConnectionEvent where
  connected : Bool
  type : Int
  hasBit : typeToAllTypes type ≠ 0
  time : Nat

/-- The cache once the message of the event was processed. The copy that the observer
makes of the item is the item. -/
def ConnectionEvent.proc (cache : SystemStatusReports) (event : ConnectionEvent) :
    SystemStatusReports :=
  (cache.eventDataItemNotify event.time
    (SystemStatusReports.connectionItem event.connected event.type)).1

/-- The one task of the process does the messages in order. -/
def process (events : List ConnectionEvent) : SystemStatusReports :=
  events.foldl ConnectionEvent.proc .empty

/-- What the most recent event of a type said. -/
def lastEvent (events : List ConnectionEvent) (type : Int) : Option Bool :=
  (events.filter (·.type = type)).getLast?.map ConnectionEvent.connected

/-- The newest network report has exactly the bits of the types that were connected by
their most recent event. -/
def TrackedExactly (events : List ConnectionEvent) : Prop :=
  ∀ newest : SystemStatusNetworkInfo,
    Report.newest ((process events).report .networkInfo) = some newest →
      ∀ type : Nat, newest.mAllTypes.getLsbD type = true ↔ lastEvent events type = some true

/-- The first event connects, or its type has another event. -/
def FirstConnectsOrIsFollowed (events : List ConnectionEvent) : Prop :=
  ∀ first rest, events = first :: rest →
    first.connected = true ∨ ∃ later ∈ rest, later.type = first.type

theorem typeToAllTypes_bit {type : Int} (hasBit : typeToAllTypes type ≠ 0) (bit : Nat) :
    (typeToAllTypes type).getLsbD bit = true ↔ type = bit := by
  unfold typeToAllTypes at hasBit ⊢
  split at hasBit
  · exact absurd rfl hasBit
  next known =>
    simp only [TYPE_UNKNOWN, TYPE_MOBILE] at known
    rw [if_neg (by simpa [TYPE_UNKNOWN, TYPE_MOBILE] using known), BitVec.getLsbD_twoPow]
    simp only [Bool.and_eq_true, decide_eq_true_eq]
    omega

theorem exists_bit {type : Int} (hasBit : typeToAllTypes type ≠ 0) : ∃ bit : Nat, type = bit := by
  unfold typeToAllTypes at hasBit
  split at hasBit
  · exact absurd rfl hasBit
  next known =>
    simp only [TYPE_UNKNOWN, TYPE_MOBILE] at known
    exact ⟨type.toNat, by omega⟩

private theorem newest_proc (event : ConnectionEvent) (cache : SystemStatusReports) :
    Report.newest ((event.proc cache).report .networkInfo) =
      Report.newest (setIteminReport (cache.report .networkInfo)
        ⟨event.time, event.time, SystemStatusNetworkInfo.new event.type "" "" event.connected
          false⟩).1 := by
  simp [ConnectionEvent.proc, SystemStatusReports.eventDataItemNotify,
    SystemStatusReports.connectionItem, DataItem.update, SystemStatusReports.update,
    SystemStatusReports.set]

/-- The first report has the bit of its type, whether the event connects or not. -/
theorem proc_first (event : ConnectionEvent) {cache : SystemStatusReports}
    (empty : Report.newest (cache.report .networkInfo) = none) :
    ∃ newest : SystemStatusNetworkInfo,
      Report.newest ((event.proc cache).report .networkInfo) = some newest ∧
        ∀ bit : Nat, newest.mAllTypes.getLsbD bit = true ↔ event.type = bit := by
  rw [newest_proc, Report.newest_setIteminReport, empty]
  exact ⟨_, rfl, typeToAllTypes_bit event.hasBit⟩

/-- The bits of a report that was collated with the one before it. -/
theorem collate_bit (event : ConnectionEvent) (cur : SystemStatusNetworkInfo) (bit : Nat) :
    ((new event.type "" "" event.connected false).collate cur).mAllTypes.getLsbD bit = true ↔
      if event.type = bit then event.connected = true else cur.mAllTypes.getLsbD bit = true := by
  have own := typeToAllTypes_bit event.hasBit bit
  change (if event.connected = true then typeToAllTypes event.type ||| cur.mAllTypes
    else if 0 ≠ typeToAllTypes event.type then cur.mAllTypes &&& ~~~typeToAllTypes event.type
    else typeToAllTypes event.type).getLsbD bit = true ↔ _
  split
  next connected =>
    rw [BitVec.getLsbD_or, Bool.or_eq_true, own]
    split
    next same => simp [same, connected]
    next other => simp [other]
  next disconnected =>
    rw [if_pos event.hasBit.symm, BitVec.getLsbD_and, BitVec.getLsbD_not, Bool.and_eq_true,
      Bool.and_eq_true, Bool.not_eq_true', decide_eq_true_eq, Bool.eq_false_iff, ne_eq, own]
    split
    next same => simp [same, disconnected]
    next other =>
      simp only [other, not_false_eq_true, and_true, and_iff_left_iff_imp]
      exact BitVec.lt_of_getLsbD

/-- An event that finds a report sets or clears the bit of its type, and no other. -/
theorem proc_later (event : ConnectionEvent) {cache : SystemStatusReports}
    {cur : SystemStatusNetworkInfo}
    (held : Report.newest (cache.report .networkInfo) = some cur) :
    ∃ newest : SystemStatusNetworkInfo,
      Report.newest ((event.proc cache).report .networkInfo) = some newest ∧
        ∀ bit : Nat, newest.mAllTypes.getLsbD bit = true ↔
          if event.type = bit then event.connected = true
          else cur.mAllTypes.getLsbD bit = true := by
  rw [newest_proc, Report.newest_setIteminReport, held]
  dsimp only
  split
  next unchanged =>
    refine ⟨cur, rfl, fun bit => ?_⟩
    have same : cur.mAllTypes =
        ((new event.type "" "" event.connected false).collate cur).mAllTypes :=
      eq_of_beq unchanged
    rw [← collate_bit, ← same]
  next changed => exact ⟨_, rfl, collate_bit event cur⟩

theorem lastEvent_append (events : List ConnectionEvent) (last : ConnectionEvent) (type : Int) :
    lastEvent (events ++ [last]) type =
      if last.type = type then some last.connected else lastEvent events type := by
  unfold lastEvent
  rw [List.filter_append]
  split
  next same => simp [same]
  next other => simp [other]

/-- What the newest report has, event after event: what the later events say of a type,
and the type of the first event where they say nothing. -/
theorem process_bits (first : ConnectionEvent) (rest : List ConnectionEvent) :
    ∃ newest : SystemStatusNetworkInfo,
      Report.newest ((process (first :: rest)).report .networkInfo) = some newest ∧
        ∀ bit : Nat, newest.mAllTypes.getLsbD bit = true ↔
          lastEvent rest bit = some true ∨ lastEvent rest bit = none ∧ first.type = bit := by
  induction rest using List.reverseRecOn with
  | nil =>
    obtain ⟨newest, held, bits⟩ := @proc_first first .empty rfl
    exact ⟨newest, held, fun bit => by simp [bits, lastEvent]⟩
  | append_singleton rest last ih =>
    obtain ⟨cur, held, bits⟩ := ih
    obtain ⟨newest, heldNow, bitsNow⟩ := proc_later last held
    refine ⟨newest, ?_, fun bit => ?_⟩
    · rw [process, ← List.cons_append, List.foldl_append]
      exact heldNow
    · rw [bitsNow, lastEvent_append]
      split
      next same => simp
      next other => exact bits bit

theorem lastEvent_cons (first : ConnectionEvent) (rest : List ConnectionEvent) (type : Int) :
    lastEvent (first :: rest) type =
      (lastEvent rest type).or (if first.type = type then some first.connected else none) := by
  induction rest using List.reverseRecOn with
  | nil =>
    unfold lastEvent
    split
    next same => simp [same]
    next other => simp [other]
  | append_singleton rest last ih =>
    rw [← List.cons_append, lastEvent_append, lastEvent_append, ih]
    split <;> simp

theorem lastEvent_eq_none_iff (events : List ConnectionEvent) (type : Int) :
    lastEvent events type = none ↔ ∀ event ∈ events, event.type ≠ type := by
  simp [lastEvent]

/-- For every sequence of events, the newest report has exactly the connected types,
exactly when the first event connects or is not the last of its type. -/
theorem connected_types_exact_iff (events : List ConnectionEvent) :
    TrackedExactly events ↔ FirstConnectsOrIsFollowed events := by
  cases events with
  | nil => exact iff_of_true (fun _ held => by cases held) fun _ _ same => by cases same
  | cons first rest =>
    obtain ⟨newest, held, bits⟩ := process_bits first rest
    constructor
    · rintro exactly _ _ ⟨⟩
      by_contra neither
      obtain ⟨disconnected, alone⟩ := not_or.mp neither
      obtain ⟨bit, type⟩ := exists_bit first.hasBit
      have none : lastEvent rest bit = none :=
        (lastEvent_eq_none_iff rest _).mpr fun later member same =>
          alone ⟨later, member, same.trans type.symm⟩
      have set := (exactly newest held bit).mp ((bits bit).mpr (Or.inr ⟨none, type⟩))
      rw [lastEvent_cons, none, if_pos type] at set
      exact disconnected (Option.some.inj set)
    · intro met other heldToo bit
      cases held.symm.trans heldToo
      rw [bits, lastEvent_cons]
      cases last : lastEvent rest bit with
      | some connected => simp
      | none =>
        have alone := (lastEvent_eq_none_iff rest _).mp last
        split
        next same =>
          rcases met first rest rfl with connects | ⟨later, member, sameType⟩
          · simp [same, connects]
          · exact absurd (sameType.trans same) (alone later member)
        next other => simp [other]

/-- Wi-Fi goes away before anything was connected. -/
def disconnectedFirst : ConnectionEvent where
  connected := false
  type := 1
  hasBit := by decide
  time := 0

/-- The newest report then says that Wi-Fi is connected. -/
theorem first_disconnect_is_kept_as_connected :
    ¬ ∀ events : List ConnectionEvent, TrackedExactly events := by
  intro all
  have exactly := all [disconnectedFirst]
  obtain ⟨newest, held, bits⟩ := process_bits disconnectedFirst []
  have wifi := (exactly newest held 1).mp ((bits 1).mpr (Or.inr ⟨rfl, rfl⟩))
  cases wifi

end Msm8917Common.Status.ConnectedTypesProofs
