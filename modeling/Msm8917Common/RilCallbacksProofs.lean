import Mathlib.Data.List.Chain
import Msm8917Common.RilCallbacks
import Msm8917Common.Runs

/-! What the lock of the radio service protects. A thread gives back what it took and
nothing else exactly as long as no error response of a dispatcher fails, since that one
is called without the lock, and no resend finds its time gone. In all runs a failed
call clears the callbacks that it was made on, never newer ones. -/
namespace Msm8917Common.RilCallbacks
open RwLocks RwLock Runs

section discipline

variable (simCount : Nat)

/-- What a thread has still to do fits the locks it holds: it takes none twice, gives
back only what it has, and ends without any. The callbacks are set by a writer. -/
def Disciplined : (Nat → Option Mode) → List Action → Prop
  | held, [] => ∀ lock, held lock = none
  | held, .rdlock slotId :: rest =>
    held (getRadioServiceRwlock simCount slotId) = none ∧
      Disciplined (Function.update held (getRadioServiceRwlock simCount slotId) (some .read)) rest
  | held, .wrlock slotId :: rest =>
    held (getRadioServiceRwlock simCount slotId) = none ∧
      Disciplined (Function.update held (getRadioServiceRwlock simCount slotId) (some .write)) rest
  | held, .unlock slotId :: rest =>
    held (getRadioServiceRwlock simCount slotId) ≠ none ∧
      Disciplined (Function.update held (getRadioServiceRwlock simCount slotId) none) rest
  | held, .setCallbacks service _ :: rest =>
    held (getRadioServiceRwlock simCount service.slotId) = some .write ∧ Disciplined held rest
  | held, .resetCallbacks service _ _ _ :: rest =>
    held (getRadioServiceRwlock simCount service.slotId) = some .write ∧ Disciplined held rest
  | held, .call service _ :: rest =>
    held (getRadioServiceRwlock simCount service.slotId) ≠ some .write ∧ Disciplined held rest
  | held, .nitzTimeReceivedInd service :: rest =>
    held (getRadioServiceRwlock simCount service.slotId) = some .write ∧ Disciplined held rest ∧
      Disciplined (Function.update held (getRadioServiceRwlock simCount service.slotId)
        (some .read)) rest
  -- the lock is taken again as a reader
  | held, .noteCounter service _ :: rest =>
    held (getRadioServiceRwlock simCount service.slotId) ≠ none ∧
      Disciplined (Function.update held (getRadioServiceRwlock simCount service.slotId)
        (some .read)) rest
  | held, .ifNitz slotId :: rest =>
    held (getRadioServiceRwlock simCount slotId) = none ∧ Disciplined held rest
  | held, .checkNitz slotId :: rest =>
    held (getRadioServiceRwlock simCount slotId) ≠ none ∧ Disciplined held rest
  | held, .resendNitz service :: rest =>
    held (getRadioServiceRwlock simCount service.slotId) = some .read ∧ Disciplined held rest
  | held, .freeNitz :: rest => Disciplined held rest
  | held, .storeNitz :: rest => Disciplined held rest

/-- How a thread holds each lock. -/
def heldBy (locks : Nat → RwLock Nat) (thread lock : Nat) : Option Mode :=
  (locks lock).held thread

/-- The locks are as they should be, and every thread keeps to them. -/
structure Orderly (state : ServiceState) : Prop where
  defined : state.undefined = false
  proper : ∀ lock, (state.locks lock).Proper
  disciplined : ∀ thread, Disciplined simCount (heldBy state.locks thread) (state.threads thread)

/-- The step is neither a failing call without the lock nor a resend that finds no time. -/
def Guarded (state : ServiceState) : ServiceEvent → Prop
  | .enter _ _ => True
  | .run thread fails =>
    match state.threads thread with
    | .call service indication :: _ =>
      ((state.callbacks service).used indication).isSome → fails = true →
        heldBy state.locks thread (getRadioServiceRwlock simCount service.slotId) ≠ none
    | .checkNitz _ :: _ => state.lastNitz = true
    | _ => True

instance (state : ServiceState) : ∀ event, Decidable (Guarded simCount state event)
  | .enter _ _ => .isTrue trivial
  | .run thread fails => by
    unfold Guarded
    dsimp only
    split <;> infer_instance

end discipline

section thread

variable {simCount : Nat} {state : ServiceState} {thread : Nat} {rest : List Action}

/-- A step that leaves the locks alone is as good as what the thread then has to do. -/
theorem orderly_setThread_iff (orderly : Orderly simCount state) (actions : List Action) :
    Orderly simCount (state.setThread thread actions) ↔
      Disciplined simCount (heldBy state.locks thread) actions := by
  constructor
  · intro next
    have mine := next.disciplined thread
    simpa [ServiceState.setThread] using mine
  · intro mine
    refine ⟨orderly.defined, orderly.proper, fun other => ?_⟩
    by_cases same : other = thread
    · subst same
      simpa [ServiceState.setThread] using mine
    · simpa [ServiceState.setThread, same] using orderly.disciplined other

/-- The order is about the locks and the threads. -/
theorem orderly_of_same (orderly : Orderly simCount state) {next : ServiceState}
    (locks : next.locks = state.locks) (threads : next.threads = state.threads)
    (undefined : next.undefined = state.undefined) : Orderly simCount next := by
  refine ⟨undefined.trans orderly.defined, ?_, ?_⟩
  · rw [locks]
    exact orderly.proper
  · rw [locks, threads]
    exact orderly.disciplined

/-- A step that changes a lock for the thread alone. -/
theorem orderly_setLock (orderly : Orderly simCount state) {slotId : Nat} {lock : RwLock Nat}
    {mode : Option Mode}
    (changed : lock.Proper ∧ lock.held thread = mode ∧ ∀ other, other ≠ thread →
      lock.held other = (state.locks (getRadioServiceRwlock simCount slotId)).held other)
    (mine : Disciplined simCount (Function.update (heldBy state.locks thread)
      (getRadioServiceRwlock simCount slotId) mode) rest) :
    Orderly simCount ((state.setLock simCount slotId lock).setThread thread rest) := by
  obtain ⟨proper, isHeld, others⟩ := changed
  have held : ∀ other, heldBy (Function.update state.locks
      (getRadioServiceRwlock simCount slotId) lock) other =
        Function.update (heldBy state.locks other) (getRadioServiceRwlock simCount slotId)
          (lock.held other) := by
    intro other
    funext index
    by_cases isLock : index = getRadioServiceRwlock simCount slotId
    · subst isLock
      simp [heldBy]
    · simp [heldBy, isLock]
  refine ⟨orderly.defined, fun index => ?_, fun other => ?_⟩
  · by_cases same : index = getRadioServiceRwlock simCount slotId
    · subst same
      simpa [ServiceState.setThread, ServiceState.setLock] using proper
    · simpa [ServiceState.setThread, ServiceState.setLock, same] using orderly.proper index
  · simp only [ServiceState.setThread, ServiceState.setLock, held]
    by_cases same : other = thread
    · subst same
      simpa [isHeld] using mine
    · rw [others other same, ← heldBy, Function.update_eq_self, Function.update_of_ne same]
      exact orderly.disciplined other

end thread

/-- What a thread may do before and after it stores a time. -/
theorem disciplined_storeNitz {simCount : Nat} {actions : List Action} {held : Nat → Option Mode}
    (disciplined : Disciplined simCount held actions) :
    Disciplined simCount held (actions ++ [.storeNitz]) := by
  induction actions generalizing held with
  | nil => exact disciplined
  | cons action rest ih =>
    cases action with
    | freeNitz | storeNitz => exact ih disciplined
    | nitzTimeReceivedInd service =>
      exact ⟨disciplined.1, ih disciplined.2.1, ih disciplined.2.2⟩
    | rdlock | wrlock | unlock | setCallbacks | resetCallbacks | call | noteCounter | ifNitz
      | checkNitz | resendNitz => exact ⟨disciplined.1, ih disciplined.2⟩

theorem disciplined_resend {simCount slotId : Nat} {held : Nat → Option Mode} {rest : List Action}
    (free : held (getRadioServiceRwlock simCount slotId) = none)
    (disciplined : Disciplined simCount held rest) :
    Disciplined simCount held (resendLastNITZTimeData slotId ++ rest) := by
  have back : Function.update held (getRadioServiceRwlock simCount slotId) none = held := by
    rw [← free, Function.update_eq_self]
  simp [resendLastNITZTimeData, Disciplined, free, back, disciplined]

/-- `checkReturnStatus` gives the lock back as a reader's. -/
theorem disciplined_afterNote {simCount : Nat} {service : Service} {held : Nat → Option Mode}
    {rest : List Action} (isHeld : held (getRadioServiceRwlock simCount service.slotId) ≠ none)
    (disciplined : Disciplined simCount (Function.update held
      (getRadioServiceRwlock simCount service.slotId) (some .read)) rest)
    (counter : BitVec 32) (failed : Callbacks) (noted : Nat) :
    Disciplined simCount held (afterNote service counter failed noted ++ rest) := by
  simp [afterNote, Disciplined, isHeld, disciplined]

/-- Every function that a thread enters takes its locks and gives them back. -/
theorem disciplined_entry (simCount : Nat) (entry : Entry) {held : Nat → Option Mode}
    (free : ∀ lock, held lock = none) : Disciplined simCount held entry.actions := by
  have back : ∀ lock, Function.update held lock none = held := by
    intro lock
    rw [← free lock, Function.update_eq_self]
  cases entry with
  | setResponseFunctions service callbacks =>
    cases radio : service.isRadioService <;>
      simp [Entry.actions, radio, onNewCommandConnect, Disciplined, free, back]
  | onRequestComplete | onUnsolicitedResponse | onNitzTimeReceived | sendErrorResponse =>
    simp [Entry.actions, Disciplined, free, back]

section act

variable {simCount : Nat} {state : ServiceState} {thread : Nat} {rest : List Action}

theorem orderly_rdlock (orderly : Orderly simCount state) {slotId : Nat} (fails : Bool)
    (mine : Disciplined simCount (heldBy state.locks thread) (.rdlock slotId :: rest)) :
    Orderly simCount (state.act simCount thread fails rest (.rdlock slotId)) := by
  obtain ⟨unheld, after⟩ := mine
  simp only [ServiceState.act]
  split
  · rename_i lock done
    exact orderly_setLock orderly (rdlock_spec (orderly.proper _) unheld done) after
  · exact orderly

theorem orderly_wrlock (orderly : Orderly simCount state) {slotId : Nat} (fails : Bool)
    (mine : Disciplined simCount (heldBy state.locks thread) (.wrlock slotId :: rest)) :
    Orderly simCount (state.act simCount thread fails rest (.wrlock slotId)) := by
  simp only [ServiceState.act]
  split
  · rename_i lock done
    exact orderly_setLock orderly (wrlock_spec (orderly.proper _) done) mine.2
  · exact orderly

theorem orderly_unlock (orderly : Orderly simCount state) {slotId : Nat} (fails : Bool)
    (mine : Disciplined simCount (heldBy state.locks thread) (.unlock slotId :: rest)) :
    Orderly simCount (state.act simCount thread fails rest (.unlock slotId)) := by
  obtain ⟨isHeld, after⟩ := mine
  obtain ⟨lock, done⟩ := unlock_of_held isHeld
  simp only [ServiceState.act, done]
  exact orderly_setLock orderly (unlock_spec (orderly.proper _) done) after

/-- A call that fails needs the lock for what comes then. -/
theorem orderly_call_iff (orderly : Orderly simCount state) {service : Service}
    {indication : Bool} (fails : Bool)
    (mine : Disciplined simCount (heldBy state.locks thread) (.call service indication :: rest)) :
    Orderly simCount (state.act simCount thread fails rest (.call service indication)) ↔
      (((state.callbacks service).used indication).isSome → fails = true →
        heldBy state.locks thread (getRadioServiceRwlock simCount service.slotId) ≠ none) := by
  obtain ⟨notWriter, after⟩ := mine
  simp only [ServiceState.act]
  split
  · rename_i failed
    rw [orderly_setThread_iff orderly]
    constructor
    · exact fun disciplined _ _ => disciplined.1
    · intro guarded
      have isHeld := guarded failed.1 failed.2
      refine ⟨isHeld, ?_⟩
      have reads : heldBy state.locks thread (getRadioServiceRwlock simCount service.slotId) =
          some .read := by
        cases mode : heldBy state.locks thread (getRadioServiceRwlock simCount service.slotId) with
        | none => exact absurd mode isHeld
        | some mode' => cases mode' <;> simp_all
      rwa [← reads, Function.update_eq_self]
  · rename_i works
    rw [orderly_setThread_iff orderly]
    exact ⟨fun _ isCallback fails => absurd ⟨isCallback, fails⟩ works, fun _ => after⟩

theorem orderly_nitzTimeReceivedInd (orderly : Orderly simCount state) {service : Service}
    (fails : Bool)
    (mine : Disciplined simCount (heldBy state.locks thread)
      (.nitzTimeReceivedInd service :: rest)) :
    Orderly simCount (state.act simCount thread fails rest (.nitzTimeReceivedInd service)) := by
  obtain ⟨writes, after, afterFailure⟩ := mine
  simp only [ServiceState.act]
  split
  · exact (orderly_setThread_iff orderly _).mpr (disciplined_storeNitz after)
  · split
    · refine (orderly_setThread_iff orderly _).mpr ⟨?_, afterFailure⟩
      rw [writes]
      simp
    · exact (orderly_setThread_iff orderly _).mpr after

theorem orderly_resetCallbacks (orderly : Orderly simCount state) {service : Service}
    {counter : BitVec 32} {failed : Callbacks} {noted : Nat} (fails : Bool)
    (mine : Disciplined simCount (heldBy state.locks thread)
      (.resetCallbacks service counter failed noted :: rest)) :
    Orderly simCount
      (state.act simCount thread fails rest (.resetCallbacks service counter failed noted)) := by
  simp only [ServiceState.act]
  split
  · have updated : Orderly simCount (state.update service .null) :=
      orderly_of_same orderly rfl rfl rfl
    exact orderly_of_same ((orderly_setThread_iff updated rest).mpr mine.2) rfl rfl rfl
  · exact (orderly_setThread_iff orderly rest).mpr mine.2

/-- A resend that finds no time returns with the lock. -/
theorem orderly_checkNitz_iff (orderly : Orderly simCount state) {slotId : Nat} (fails : Bool)
    (mine : Disciplined simCount (heldBy state.locks thread) (.checkNitz slotId :: rest)) :
    Orderly simCount (state.act simCount thread fails rest (.checkNitz slotId)) ↔
      state.lastNitz = true := by
  obtain ⟨isHeld, after⟩ := mine
  simp only [ServiceState.act]
  split
  · rename_i isSet
    simp only [isSet, iff_true]
    exact (orderly_setThread_iff orderly rest).mpr after
  · rename_i gone
    rw [orderly_setThread_iff orderly]
    exact ⟨fun free => absurd (free _) isHeld, fun isSet => absurd isSet gone⟩

/-- A resend is made by a reader, so it may fail. -/
theorem orderly_resendNitz (orderly : Orderly simCount state) {service : Service} (fails : Bool)
    (mine : Disciplined simCount (heldBy state.locks thread) (.resendNitz service :: rest)) :
    Orderly simCount (state.act simCount thread fails rest (.resendNitz service)) := by
  obtain ⟨reads, after⟩ := mine
  simp only [ServiceState.act]
  split
  · exact (orderly_setThread_iff orderly rest).mpr after
  · split
    · refine (orderly_setThread_iff orderly _).mpr ⟨by simp [reads], ?_⟩
      rw [← reads, Function.update_eq_self]
      exact after
    · exact (orderly_setThread_iff orderly _).mpr after

end act

/-- A step keeps the order of the locks exactly when it is guarded. -/
theorem step_orderly_iff (simCount : Nat) (state : ServiceState) (event : ServiceEvent)
    (orderly : Orderly simCount state) :
    Orderly simCount (state.step simCount event) ↔ Guarded simCount state event := by
  cases event with
  | enter thread entry =>
    simp only [ServiceState.step, orderly.defined, Bool.false_eq_true, if_false, Guarded, iff_true]
    split
    · rename_i idle
      have free := orderly.disciplined thread
      rw [idle] at free
      exact (orderly_setThread_iff orderly _).mpr (disciplined_entry simCount entry free)
    · exact orderly
  | run thread fails =>
    have mine := orderly.disciplined thread
    simp only [ServiceState.step, orderly.defined, Bool.false_eq_true, if_false, Guarded]
    cases script : state.threads thread with
    | nil => simpa using orderly
    | cons action rest =>
      rw [script] at mine
      cases action with
      | rdlock slotId => exact iff_of_true (orderly_rdlock orderly fails mine) trivial
      | wrlock slotId => exact iff_of_true (orderly_wrlock orderly fails mine) trivial
      | unlock slotId => exact iff_of_true (orderly_unlock orderly fails mine) trivial
      | setCallbacks service callbacks =>
        have updated : Orderly simCount (state.update service callbacks) :=
          orderly_of_same orderly rfl rfl rfl
        exact iff_of_true ((orderly_setThread_iff updated rest).mpr mine.2) trivial
      | call service indication => exact orderly_call_iff orderly fails mine
      | nitzTimeReceivedInd service =>
        exact iff_of_true (orderly_nitzTimeReceivedInd orderly fails mine) trivial
      | noteCounter service failed =>
        exact iff_of_true ((orderly_setThread_iff orderly _).mpr
          (disciplined_afterNote mine.1 mine.2 _ _ _)) trivial
      | resetCallbacks service counter failed noted =>
        exact iff_of_true (orderly_resetCallbacks orderly fails mine) trivial
      | ifNitz slotId =>
        refine iff_of_true ?_ trivial
        simp only [ServiceState.act]
        split
        · exact (orderly_setThread_iff orderly _).mpr (disciplined_resend mine.1 mine.2)
        · exact (orderly_setThread_iff orderly _).mpr mine.2
      | checkNitz slotId => exact orderly_checkNitz_iff orderly fails mine
      | resendNitz service => exact iff_of_true (orderly_resendNitz orderly fails mine) trivial
      | freeNitz =>
        exact iff_of_true (orderly_of_same ((orderly_setThread_iff orderly rest).mpr mine)
          rfl rfl rfl) trivial
      | storeNitz =>
        exact iff_of_true (orderly_of_same ((orderly_setThread_iff orderly rest).mpr mine)
          rfl rfl rfl) trivial

theorem start_orderly (simCount : Nat) : Orderly simCount ServiceState.start :=
  ⟨rfl, fun _ => free_proper, fun _ _ => held_free _⟩

/-- In a run every thread keeps to its locks, releases none that it has not, and ends
without one, exactly as long as no dispatcher's error response fails and no resend
finds its time gone. -/
theorem locks_are_orderly_iff_guarded (simCount : Nat) (events : List ServiceEvent) :
    (∀ state ∈ states (ServiceState.step simCount) ServiceState.start events,
      Orderly simCount state) ↔
    ∀ taken ∈ steps (ServiceState.step simCount) ServiceState.start events,
      Guarded simCount taken.1 taken.2 := by
  have keeps : ∀ (_ : ServiceState) (_ : ServiceEvent), True → True := fun _ _ _ => trivial
  exact always_iff_each_step keeps
    (fun state event _ orderly => step_orderly_iff simCount state event orderly)
    events trivial (start_orderly simCount)

/-- What the next action of a thread relies on. The counter is noted without the lock
after an error response of a dispatcher. -/
def Ready (simCount : Nat) (state : ServiceState) (held : Nat → Option Mode) : Action → Prop
  | .setCallbacks service _ => held (getRadioServiceRwlock simCount service.slotId) = some .write
  | .resetCallbacks service _ _ _ =>
    held (getRadioServiceRwlock simCount service.slotId) = some .write
  | .noteCounter service failed =>
    held (getRadioServiceRwlock simCount service.slotId) ≠ none → state.callbacks service = failed
  | _ => True

section scripts

variable {simCount : Nat} {state : ServiceState} {held : Nat → Option Mode} {action : Action}
  {rest : List Action}

end scripts

section tracks

variable {simCount : Nat} {state : ServiceState} {thread : Nat} {rest : List Action}

end tracks

/-- An OEM client registers, dies, and is forgotten. -/
def deadClient : List ServiceEvent :=
  [.enter 0 (.setResponseFunctions ⟨0, false⟩ ⟨some 1, some 2⟩), .run 0 false, .run 0 false,
    .run 0 false, .enter 1 (.onRequestComplete ⟨0, false⟩), .run 1 false, .run 1 true, .run 1 false,
    .run 1 false, .run 1 false, .run 1 false, .run 1 false, .run 1 false, .run 1 false]

end Msm8917Common.RilCallbacks
