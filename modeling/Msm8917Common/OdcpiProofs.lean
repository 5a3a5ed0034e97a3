import Mathlib.Data.List.Chain
import Msm8917Common.Odcpi
import Msm8917Common.Runs

/-! How far apart the calls of the framework are. Every call restarts the timer, so
the timer tells when the next one may come; what spoils this is a message of an
earlier timer that is still queued, and a remembered request that was never passed
on. -/
namespace Msm8917Common.Gnss.Odcpi
open Runs

/-- A call comes late enough after the one before, or is the first for an
emergency. -/
def Spaced (call before : Call) : Prop :=
  before.time + odcpiExpectedInjectionTimeMs ≤ call.time ∨
    call.request.isEmergencyMode = true ∧ before.request.isEmergencyMode = false

instance (call before : Call) : Decidable (Spaced call before) :=
  inferInstanceAs (Decidable (_ ∨ _))

def Throttled (world : OdcpiWorld) : Prop := world.calls.IsChain Spaced

instance (world : OdcpiWorld) : Decidable (Throttled world) :=
  inferInstanceAs (Decidable (List.IsChain Spaced world.calls))

/-- An active request is looked after: its timer is on, and runs or has expired and
is about to be heard of. -/
def Covered (world : OdcpiWorld) : Prop :=
  world.adapter.mOdcpiRequestActive = true →
    world.adapter.mOdcpiTimer.isActive = true ∧
      (world.adapter.mOdcpiTimer.deadline.isSome = true ∨ world.expiring = true ∨
        .odcpiTimerExpire ∈ world.queue)

/-- The timer does not run with time left. -/
def Due (world : OdcpiWorld) : Prop :=
  ∀ deadline ∈ world.adapter.mOdcpiTimer.deadline, deadline ≤ world.now

/-- An emergency comes where the last request that was passed on was none. -/
def Replaces (world : OdcpiWorld) (request : OdcpiRequestInfo) : Prop :=
  request.isEmergencyMode = true ∧ ∀ call ∈ world.calls.head?, call.request.isEmergencyMode = false

/-- What a message must meet. A start with the timer off: no timer was stopped that
would still run. An emergency that replaces a remembered request: the timer has no
time left, or the request passed on last was none either. An expiry while a request
is active: no later timer runs with time left. -/
def MsgSpaced (world : OdcpiWorld) : AdapterMsg → Prop
  | .reportOdcpiRequest request =>
    world.adapter.mOdcpiRequestCb = true → request.type = .start →
      if world.adapter.mOdcpiRequestActive = false ∧ world.adapter.mOdcpiTimer.isActive = false then
        Replaces world request ∨ ∀ deadline ∈ world.adapter.mOdcpiTimer.cut, deadline ≤ world.now
      else if world.adapter.mOdcpiRequest.isEmergencyMode = false ∧
          request.isEmergencyMode = true then
        Replaces world request ∨ Due world
      else True
  | .odcpiTimerExpire => world.adapter.mOdcpiRequestActive = true → Due world
  | .restartSessions => True

/-- When the time of the last call is over. -/
def OdcpiWorld.quietUntil (world : OdcpiWorld) : Option Nat :=
  world.calls.head?.map (·.time + odcpiExpectedInjectionTimeMs)

/-- What holds throughout, throttled or not: the deadlines are the last call's, and
an emergency that is remembered was passed on last. -/
structure Holds (world : OdcpiWorld) : Prop where
  running : ∀ deadline ∈ world.adapter.mOdcpiTimer.deadline, world.quietUntil = some deadline
  expired : world.adapter.mOdcpiTimer.mActive = true →
    world.adapter.mOdcpiTimer.deadline = none → ∃ time ∈ world.quietUntil, time ≤ world.now
  off : world.adapter.mOdcpiTimer.mActive = false → world.adapter.mOdcpiTimer.deadline = none ∧
    ∀ time ∈ world.quietUntil, time ≤ world.now ∨ world.adapter.mOdcpiTimer.cut = some time
  cut : ∀ deadline ∈ world.adapter.mOdcpiTimer.cut, world.quietUntil = some deadline
  emergency : world.adapter.mOdcpiRequest.isEmergencyMode = true →
    ∃ call ∈ world.calls.head?, call.request.isEmergencyMode = true
  active : world.adapter.mOdcpiRequestActive = true → world.adapter.mOdcpiTimer.mActive = true
  heard : world.adapter.mOdcpiTimer.mActive = true →
    world.adapter.mOdcpiTimer.deadline.isSome = true ∨ world.expiring = true ∨
      .odcpiTimerExpire ∈ world.queue

theorem Holds.covered {world : OdcpiWorld} (holds : Holds world) : Covered world :=
  fun active => ⟨holds.active active, holds.heard (holds.active active)⟩

section Calls
variable {world : OdcpiWorld} {request : OdcpiRequestInfo}

/-- The framework is called and the timer started anew. -/
def OdcpiWorld.forward (world : OdcpiWorld) (request : OdcpiRequestInfo) : OdcpiWorld :=
  { world with
    adapter.mOdcpiRequestActive := true
    adapter.mOdcpiTimer := ⟨true, some (world.now + odcpiExpectedInjectionTimeMs), none⟩
    adapter.mOdcpiRequest := request
    calls := ⟨world.now, request⟩ :: world.calls }

theorem forward_holds (world : OdcpiWorld) (request : OdcpiRequestInfo) :
    Holds (world.forward request) where
  running := fun deadline member => member
  expired := fun _ none => by cases none
  off := fun inactive => by cases inactive
  cut := fun deadline member => by cases member
  emergency := fun emergency => ⟨_, rfl, emergency⟩
  active := fun _ => rfl
  heard := fun _ => .inl rfl

theorem forward_throttled_iff (throttled : Throttled world) (request : OdcpiRequestInfo) :
    Throttled (world.forward request) ↔
      ∀ call ∈ world.calls.head?, Spaced ⟨world.now, request⟩ call := by
  rw [Throttled, OdcpiWorld.forward, List.isChain_cons]
  exact and_iff_left throttled

/-- A call is late enough exactly if it replaces, or the time of the last one is
over. -/
theorem spaced_iff (world : OdcpiWorld) (request : OdcpiRequestInfo) :
    (∀ call ∈ world.calls.head?, Spaced ⟨world.now, request⟩ call) ↔
      Replaces world request ∨ ∀ time ∈ world.quietUntil, time ≤ world.now := by
  unfold OdcpiWorld.quietUntil Replaces
  cases world.calls.head? with
  | none => simp
  | some call => simp [Spaced, or_comm]

/-- While the timer is on, the time of the last call is over exactly if it does not
run with time left. -/
theorem Holds.due_iff (holds : Holds world)
    (isActive : world.adapter.mOdcpiTimer.mActive = true) :
    (∀ time ∈ world.quietUntil, time ≤ world.now) ↔ Due world := by
  unfold Due
  cases runs : world.adapter.mOdcpiTimer.deadline with
  | none =>
    obtain ⟨time, last, past⟩ := holds.expired isActive runs
    refine iff_of_true ?_ (by simp)
    intro other member
    cases Option.mem_unique last member
    exact past
  | some deadline =>
    rw [holds.running deadline runs]

/-- While the timer is off, the time of the last call is over exactly if that of
the timer that was stopped is. -/
theorem Holds.cut_iff (holds : Holds world)
    (inactive : world.adapter.mOdcpiTimer.mActive = false) :
    (∀ time ∈ world.quietUntil, time ≤ world.now) ↔
      ∀ deadline ∈ world.adapter.mOdcpiTimer.cut, deadline ≤ world.now := by
  constructor
  · exact fun past deadline left => past deadline (holds.cut deadline left)
  · intro past time last
    rcases (holds.off inactive).2 time last with late | left
    · exact late
    · exact past time left

end Calls

section Messages
variable {world : OdcpiWorld}

/-- A start with the timer off is passed on. -/
theorem first_start_forwards (holds : Holds world) {request : OdcpiRequestInfo}
    (supported : world.adapter.mOdcpiRequestCb = true) (starts : request.type = .start)
    (first : world.adapter.mOdcpiRequestActive = false ∧
      world.adapter.mOdcpiTimer.isActive = false) :
    world.process (.reportOdcpiRequest request) = world.forward request := by
  have idle := (holds.off first.2).1
  simp only [OdcpiWorld.process, AdapterMsg.proc, GnssAdapter.reportOdcpiRequest, supported,
    if_true, starts, first, and_self, OdcpiTimer.start, idle, Option.getD_none,
    OdcpiWorld.forward]

/-- So is an emergency that replaces the remembered request. -/
theorem emergency_forwards (holds : Holds world) {request : OdcpiRequestInfo}
    (supported : world.adapter.mOdcpiRequestCb = true) (starts : request.type = .start)
    (later : ¬ (world.adapter.mOdcpiRequestActive = false ∧
      world.adapter.mOdcpiTimer.isActive = false))
    (emergency : world.adapter.mOdcpiRequest.isEmergencyMode = false ∧
      request.isEmergencyMode = true) :
    world.adapter.mOdcpiTimer.mActive = true ∧
      world.process (.reportOdcpiRequest request) = world.forward request := by
  have isActive : world.adapter.mOdcpiTimer.isActive = true := by
    by_contra inactive
    rw [Bool.not_eq_true] at inactive
    cases active : world.adapter.mOdcpiRequestActive with
    | false => exact later ⟨active, inactive⟩
    | true => exact absurd (inactive.symm.trans (holds.active active)) (by decide)
  refine ⟨isActive, ?_⟩
  simp only [OdcpiWorld.process, AdapterMsg.proc, GnssAdapter.reportOdcpiRequest, supported,
    if_true, starts, isActive, reduceCtorEq, and_false, if_false, emergency, and_self,
    OdcpiTimer.restart, OdcpiTimer.stop, OdcpiTimer.start, Option.getD_none, OdcpiWorld.forward]

/-- Any other start is only remembered. -/
theorem later_start_is_remembered {request : OdcpiRequestInfo}
    (supported : world.adapter.mOdcpiRequestCb = true) (starts : request.type = .start)
    (later : ¬ (world.adapter.mOdcpiRequestActive = false ∧
      world.adapter.mOdcpiTimer.isActive = false))
    (calm : ¬ (world.adapter.mOdcpiRequest.isEmergencyMode = false ∧
      request.isEmergencyMode = true)) :
    world.process (.reportOdcpiRequest request) = { world with
      adapter.mOdcpiRequestActive := true
      adapter.mOdcpiRequest := request } := by
  simp only [OdcpiWorld.process, AdapterMsg.proc, GnssAdapter.reportOdcpiRequest, supported,
    if_true, starts, later, if_false, calm]
  split
  · rfl
  · next waiting =>
    have active : world.adapter.mOdcpiRequestActive = true := by
      cases active : world.adapter.mOdcpiRequestActive with
      | true => rfl
      | false =>
        have inactive : world.adapter.mOdcpiTimer.isActive = false := by simpa [active] using waiting
        exact absurd ⟨active, inactive⟩ later
    simp only [active, supported]

theorem remembered_holds (holds : Holds world) {request : OdcpiRequestInfo}
    (isActive : world.adapter.mOdcpiTimer.mActive = true)
    (calm : ¬ (world.adapter.mOdcpiRequest.isEmergencyMode = false ∧
      request.isEmergencyMode = true)) :
    Holds { world with
      adapter.mOdcpiRequestActive := true
      adapter.mOdcpiRequest := request } := by
  refine { holds with
    emergency := fun emergency => holds.emergency ?_
    active := fun _ => isActive }
  by_contra remembered
  exact calm ⟨by simpa using remembered, emergency⟩

theorem released_holds (holds : Holds world) :
    Holds { world with adapter.mOdcpiRequestActive := false } :=
  { holds with active := fun active => by cases active }

/-- A report keeps what holds throughout, and keeps the calls apart exactly if it
meets its condition. -/
theorem report_keeps (holds : Holds world) (request : OdcpiRequestInfo) :
    Holds (world.process (.reportOdcpiRequest request)) ∧
      (Throttled world → (Throttled (world.process (.reportOdcpiRequest request)) ↔
        MsgSpaced world (.reportOdcpiRequest request))) := by
  rw [MsgSpaced]
  by_cases supported : world.adapter.mOdcpiRequestCb = true
  case neg =>
    have same : world.process (.reportOdcpiRequest request) = world := by
      simp [OdcpiWorld.process, AdapterMsg.proc, GnssAdapter.reportOdcpiRequest, supported]
    rw [same]
    exact ⟨holds, fun throttled => iff_of_true throttled fun present => absurd present supported⟩
  by_cases starts : request.type = .start
  case neg =>
    have released : world.process (.reportOdcpiRequest request) =
        { world with adapter.mOdcpiRequestActive := false } := by
      simp [OdcpiWorld.process, AdapterMsg.proc, GnssAdapter.reportOdcpiRequest, supported, starts]
    rw [released]
    exact ⟨released_holds holds,
      fun throttled => iff_of_true throttled fun _ start => absurd start starts⟩
  rw [forall_prop_of_true supported, forall_prop_of_true starts]
  split
  · next first =>
    rw [first_start_forwards holds supported starts first]
    refine ⟨forward_holds world request, fun throttled => ?_⟩
    rw [forward_throttled_iff throttled, spaced_iff, holds.cut_iff first.2]
  · next later =>
    split
    · next emergency =>
      obtain ⟨isActive, forwarded⟩ := emergency_forwards holds supported starts later emergency
      rw [forwarded]
      refine ⟨forward_holds world request, fun throttled => ?_⟩
      rw [forward_throttled_iff throttled, spaced_iff, holds.due_iff isActive]
    · next calm =>
      rw [later_start_is_remembered supported starts later calm]
      refine ⟨remembered_holds holds ?_ calm, fun throttled => iff_of_true throttled trivial⟩
      by_contra inactive
      rw [Bool.not_eq_true] at inactive
      cases active : world.adapter.mOdcpiRequestActive with
      | false => exact later ⟨active, inactive⟩
      | true => exact absurd (inactive.symm.trans (holds.active active)) (by decide)

/-- The timer is stopped while no request is active. -/
theorem stopped_holds (holds : Holds world) (rest : List AdapterMsg)
    (released : world.adapter.mOdcpiRequestActive = false) :
    Holds { world with
      queue := rest
      adapter.mOdcpiTimer := world.adapter.mOdcpiTimer.stop } where
  running := fun _ runs => by cases runs
  expired := fun isActive => by cases isActive
  off := by
    refine fun _ => ⟨rfl, fun time last => ?_⟩
    cases runs : world.adapter.mOdcpiTimer.deadline with
    | some deadline =>
      have same := (holds.running deadline runs).symm.trans last
      right
      simp only [OdcpiTimer.stop, runs, Option.some_or]
      exact same
    | none =>
      simp only [OdcpiTimer.stop, runs, Option.none_or]
      cases isActive : world.adapter.mOdcpiTimer.mActive with
      | true =>
        obtain ⟨other, member, past⟩ := holds.expired isActive runs
        cases Option.mem_unique last member
        exact .inl past
      | false => exact (holds.off isActive).2 time last
  cut := by
    intro deadline left
    cases runs : world.adapter.mOdcpiTimer.deadline with
    | some other =>
      simp only [OdcpiTimer.stop, runs, Option.some_or, Option.mem_def, Option.some.injEq] at left
      exact left ▸ holds.running other runs
    | none =>
      simp only [OdcpiTimer.stop, runs, Option.none_or] at left
      exact holds.cut deadline left
  emergency := holds.emergency
  active := fun isActive => absurd (released.symm.trans isActive) (by decide)
  heard := fun isActive => by cases isActive

/-- An expiry keeps what holds throughout, and keeps the calls apart exactly if no
later timer runs with time left. -/
theorem expiry_keeps (holds : Holds world) (rest : List AdapterMsg) :
    Holds ({ world with queue := rest }.process .odcpiTimerExpire) ∧
      (Throttled world → (Throttled ({ world with queue := rest }.process .odcpiTimerExpire) ↔
        MsgSpaced world .odcpiTimerExpire)) := by
  rw [MsgSpaced]
  cases active : world.adapter.mOdcpiRequestActive with
  | true =>
    have forwarded : { world with queue := rest }.process .odcpiTimerExpire =
        { world with queue := rest }.forward world.adapter.mOdcpiRequest := by
      simp only [OdcpiWorld.process, AdapterMsg.proc, GnssAdapter.odcpiTimerExpire, active,
        if_true, OdcpiTimer.restart, OdcpiTimer.stop, OdcpiTimer.start, Option.getD_none,
        OdcpiWorld.forward]
    rw [forwarded, forall_prop_of_true rfl]
    refine ⟨forward_holds _ _, fun throttled => ?_⟩
    have kept : Throttled { world with queue := rest } := throttled
    rw [forward_throttled_iff kept, ← holds.due_iff (holds.active active)]
    refine (spaced_iff { world with queue := rest } _).trans (or_iff_right ?_)
    -- An emergency that is remembered was passed on last.
    rintro ⟨emergency, calm⟩
    obtain ⟨call, last, wasEmergency⟩ := holds.emergency emergency
    exact absurd ((calm call last).symm.trans wasEmergency) (by decide)
  | false =>
    have stopped : { world with queue := rest }.process .odcpiTimerExpire = { world with
        queue := rest
        adapter.mOdcpiTimer := world.adapter.mOdcpiTimer.stop } := by
      simp [OdcpiWorld.process, AdapterMsg.proc, GnssAdapter.odcpiTimerExpire, active]
    rw [stopped]
    exact ⟨stopped_holds holds rest active,
      fun throttled => iff_of_true throttled fun isActive => by cases isActive⟩

end Messages

section Runs
variable {world : OdcpiWorld}

theorem start_holds (supported : Bool) : Holds (OdcpiWorld.start supported) where
  running := fun _ runs => by cases runs
  expired := fun isActive => by cases isActive
  off := fun _ => ⟨rfl, fun _ last => by cases last⟩
  cut := fun _ left => by cases left
  emergency := fun emergency => by cases emergency
  active := fun active => by cases active
  heard := fun isActive => by cases isActive

theorem sent_holds (holds : Holds world) (msg : AdapterMsg) : Holds (world.sendMsg msg) :=
  { holds with
    heard := fun isActive => (holds.heard isActive).imp_right fun later =>
      later.imp_right fun queued => List.mem_append_left _ queued }

theorem tick_holds (holds : Holds world) (millis : Nat) :
    Holds { world with now := world.now + millis } :=
  { holds with
    expired := fun isActive idle => by
      obtain ⟨time, last, past⟩ := holds.expired isActive idle
      exact ⟨time, last, Nat.le_add_right_of_le past⟩
    off := fun inactive => ⟨(holds.off inactive).1, fun time last =>
      ((holds.off inactive).2 time last).imp_left Nat.le_add_right_of_le⟩ }

theorem expire_holds (holds : Holds world) : Holds world.expire := by
  unfold OdcpiWorld.expire
  split
  · next expires =>
    obtain ⟨-, deadline, runs, past⟩ := expires
    refine { holds with running := ?_, expired := ?_, off := ?_, heard := ?_ }
    · exact fun _ gone => by cases gone
    · exact fun _ _ => ⟨deadline, holds.running deadline runs, past⟩
    · exact fun inactive => absurd ((holds.off inactive).1.symm.trans runs) (by simp)
    · exact fun _ => .inr (.inl rfl)
  · exact holds

theorem timeOutCallback_holds (holds : Holds world) : Holds world.timeOutCallback := by
  unfold OdcpiWorld.timeOutCallback
  split
  · exact { sent_holds holds .odcpiTimerExpire with
      heard := fun _ => .inr (.inr (List.mem_append_right _ (List.mem_singleton_self _))) }
  · exact holds

/-- A message other than an expiry is not what an active request waits for. -/
theorem popped_holds (holds : Holds world) {msg : AdapterMsg} {rest : List AdapterMsg}
    (waiting : world.queue = msg :: rest) (other : msg ≠ .odcpiTimerExpire) :
    Holds { world with queue := rest } := by
  refine { holds with heard := fun isActive => ?_ }
  refine (holds.heard isActive).imp_right fun later => later.imp_right fun queued => ?_
  rw [waiting] at queued
  exact (List.mem_cons.mp queued).resolve_left other.symm

/-- The message that is processed meets its condition. -/
def InputSpaced (world : OdcpiWorld) (input : OdcpiInput) : Prop :=
  ∀ msg, input = .proc → world.queue.head? = some msg → MsgSpaced world msg

theorem step_keeps (holds : Holds world) (input : OdcpiInput) :
    Holds (world.step input) ∧
      (Throttled world → (Throttled (world.step input) ↔ InputSpaced world input)) := by
  have silent : input ≠ .proc → (world.step input).calls = world.calls →
      Throttled world → (Throttled (world.step input) ↔ InputSpaced world input) := by
    intro other same throttled
    rw [Throttled, same]
    exact iff_of_true throttled fun _ processes => absurd processes other
  cases input with
  | reportOdcpiRequestEvent request => exact ⟨sent_holds holds _, silent (by simp) rfl⟩
  | handleEngineUpEvent => exact ⟨sent_holds holds _, silent (by simp) rfl⟩
  | tick millis => exact ⟨tick_holds holds millis, silent (by simp) rfl⟩
  | expire =>
    refine ⟨expire_holds holds, silent (by simp) ?_⟩
    simp only [OdcpiWorld.step, OdcpiWorld.expire]
    split <;> rfl
  | timeOutCallback =>
    refine ⟨timeOutCallback_holds holds, silent (by simp) ?_⟩
    simp only [OdcpiWorld.step, OdcpiWorld.timeOutCallback]
    split <;> rfl
  | proc =>
    cases waiting : world.queue with
    | nil =>
      have same : world.step .proc = world := by simp only [OdcpiWorld.step, waiting]
      rw [same]
      exact ⟨holds, fun throttled => iff_of_true throttled fun _ _ head => by simp [waiting] at head⟩
    | cons msg rest =>
      have processed : world.step .proc = { world with queue := rest }.process msg := by
        simp only [OdcpiWorld.step, waiting]
      have about : InputSpaced world .proc ↔ MsgSpaced world msg := by
        unfold InputSpaced
        simp [waiting]
      rw [processed, about]
      cases msg with
      | reportOdcpiRequest request =>
        exact report_keeps (popped_holds holds waiting (by simp)) request
      | odcpiTimerExpire => exact expiry_keeps holds rest
      | restartSessions =>
        exact ⟨released_holds (popped_holds holds waiting (by simp)),
          fun throttled => iff_of_true throttled trivial⟩

end Runs

/-- Over any run of requests, expiries, restarts and messages, with the callback of
the framework or without, two calls in a row are far enough apart and an active
request is always looked after, exactly if every message meets its condition. -/
theorem requests_throttled_iff_messages_spaced (supported : Bool) (inputs : List OdcpiInput) :
    (∀ world ∈ states OdcpiWorld.step (.start supported) inputs,
        Throttled world ∧ Covered world) ↔
      ∀ taken ∈ steps OdcpiWorld.step (.start supported) inputs,
        InputSpaced taken.1 taken.2 := by
  have keeps : ∀ (world : OdcpiWorld) (input : OdcpiInput), Holds world →
      Holds (world.step input) := fun _ input holds => (step_keeps holds input).1
  have decided : ∀ (world : OdcpiWorld) (input : OdcpiInput), Holds world →
      Throttled world ∧ Covered world →
        (Throttled (world.step input) ∧ Covered (world.step input) ↔ InputSpaced world input) :=
    fun _ input holds fine => (and_iff_left (keeps _ input holds).covered).trans
      ((step_keeps holds input).2 fine.1)
  exact always_iff_each_step keeps decided inputs (start_holds supported)
    ⟨.nil, (start_holds supported).covered⟩

/-- A request that is no emergency and is not passed on takes the place of the
emergency before it, so the next one is passed on at once. -/
theorem emergencies_in_quick_succession :
    ¬ ∀ (supported : Bool) (inputs : List OdcpiInput),
      ∀ world ∈ states OdcpiWorld.step (.start supported) inputs,
        Throttled world ∧ Covered world := by
  intro always
  have throttled := (always true [.reportOdcpiRequestEvent ⟨.start, 1000, true⟩, .proc,
    .reportOdcpiRequestEvent ⟨.start, 1000, false⟩, .proc,
    .reportOdcpiRequestEvent ⟨.start, 1000, true⟩, .proc] _ (end_mem_states _ _)).1
  exact absurd throttled (by decide)

end Msm8917Common.Gnss.Odcpi
