import Mathlib.Data.List.Basic
import Msm8917Common.LocationTypes

/-! `LocationAPIControlClient::locAPIGnssUpdateConfig`: a configuration that is identical
to the one stored is not forwarded again. It is stored before the control API answers. -/
namespace Msm8917Common.Location

def CONFIG_SESSION_ID : Nat := 0xFFFFFFFF

/-- Of a configuration only its bytes matter, and of the queued requests how many there
are. Whether there is a control API is settled by the constructor. -/
structure LocationAPIControlClient (GnssConfig : Type*) where
  mLocationControlAPI : Bool
  mConfig : GnssConfig
  configSession : Nat
  configRequests : Nat

namespace LocationAPIControlClient
variable {GnssConfig : Type*}

/-- The constructor: `memset` makes the stored configuration all zeros. -/
def new (zeros : GnssConfig) (mLocationControlAPI : Bool) : LocationAPIControlClient GnssConfig :=
  ⟨mLocationControlAPI, zeros, 0, 0⟩

/-- `reset`, for a queue with another session, and `push`. -/
def pushConfigRequest (client : LocationAPIControlClient GnssConfig) :
    LocationAPIControlClient GnssConfig :=
  if client.configSession ≠ CONFIG_SESSION_ID then
    { client with configSession := CONFIG_SESSION_ID, configRequests := 1 }
  else { client with configRequests := client.configRequests + 1 }

/-- The configuration of the last of these calls, or the one before them. -/
def lastConfig (stored : GnssConfig) (calls : List (GnssConfig × Bool)) : GnssConfig :=
  calls.foldl (fun _ call => call.1) stored

/-- No call brings a configuration other than the one before, is refused, and is repeated
by the next call. -/
def NoRefusedRepeat (stored : GnssConfig) (calls : List (GnssConfig × Bool)) : Prop :=
  ∀ before call next after, calls = before ++ call :: next :: after →
    call.1 ≠ lastConfig stored before → next.1 = call.1 → call.2 = true

variable {call : GnssConfig × Bool} {calls : List (GnssConfig × Bool)}

theorem noRefusedRepeat_cons {stored : GnssConfig} : NoRefusedRepeat stored (call :: calls) ↔
    (call.1 ≠ stored → ∀ next ∈ calls.head?, next.1 = call.1 → call.2 = true) ∧
      NoRefusedRepeat call.1 calls := by
  constructor
  · intro all
    refine ⟨fun other next first same => ?_, fun before later next after cut => ?_⟩
    · obtain ⟨after, rfl⟩ := List.head?_eq_some_iff.mp first
      exact all [] call next after rfl other same
    · exact all (call :: before) later next after (by rw [cut]; rfl)
  · rintro ⟨here, later⟩ before taken next after cut
    cases before with
    | nil =>
      cases cut
      exact fun other => here other next rfl
    | cons first before =>
      obtain ⟨rfl, rest⟩ := List.cons.inj cut
      exact later before taken next after rest

variable [DecidableEq GnssConfig]

/-- What is returned, and whether the control API was called. `accepted` is its answer if
it is called: an array of ids and not null. -/
def locAPIGnssUpdateConfig (config : GnssConfig) (accepted : Bool)
    (client : LocationAPIControlClient GnssConfig) :
    LocationAPIControlClient GnssConfig × LocationError × Bool :=
  if client.mConfig = config then (client, .success, false)
  else if client.mLocationControlAPI then
    let client := { client with mConfig := config }
    if accepted then (client.pushConfigRequest, .success, true)
    else (client, .generalFailure, true)
  else (client, .generalFailure, false)

/-- The client after a call, and the answers of the control API so far. -/
def step (state : LocationAPIControlClient GnssConfig × List (GnssConfig × Bool))
    (call : GnssConfig × Bool) :
    LocationAPIControlClient GnssConfig × List (GnssConfig × Bool) :=
  let (client, _, forwarded) := state.1.locAPIGnssUpdateConfig call.1 call.2
  (client, if forwarded then call :: state.2 else state.2)

/-- The call succeeds though nothing is forwarded. -/
def succeedsSilently (client : LocationAPIControlClient GnssConfig) (call : GnssConfig × Bool) :
    Prop :=
  (client.locAPIGnssUpdateConfig call.1 call.2).2 = (.success, false)

/-- The last answer of the control API to this configuration, if it was forwarded. -/
def lastAnswer (config : GnssConfig) (answers : List (GnssConfig × Bool)) : Option Bool :=
  (answers.find? fun answer => answer.1 = config).map Prod.snd

/-- Each call that succeeds silently repeats a configuration whose last answer was an
acceptance. -/
def OnlyRepeatsAccepted (state : LocationAPIControlClient GnssConfig × List (GnssConfig × Bool))
    (calls : List (GnssConfig × Bool)) : Prop :=
  ∀ before call after, calls = before ++ call :: after →
    (before.foldl step state).1.succeedsSilently call →
      lastAnswer call.1 (before.foldl step state).2 = some true

variable {state : LocationAPIControlClient GnssConfig × List (GnssConfig × Bool)}

/-! One call -/

theorem step_same (same : state.1.mConfig = call.1) :
    step state call = state ∧ state.1.succeedsSilently call := by
  have called : state.1.locAPIGnssUpdateConfig call.1 call.2 = (state.1, .success, false) :=
    if_pos same
  rw [step, succeedsSilently, called]
  exact ⟨rfl, rfl⟩

theorem step_other (present : state.1.mLocationControlAPI = true)
    (other : state.1.mConfig ≠ call.1) :
    (step state call).1.mConfig = call.1 ∧ (step state call).1.mLocationControlAPI = true ∧
      (step state call).2 = call :: state.2 ∧ ¬ state.1.succeedsSilently call := by
  simp only [step, succeedsSilently, locAPIGnssUpdateConfig, if_neg other, if_pos present]
  cases call.2 with
  | false => simp [present]
  | true =>
    simp only [if_true, pushConfigRequest]
    split <;> simp [present]

theorem step_absent (call : GnssConfig × Bool) (absent : state.1.mLocationControlAPI = false) :
    step state call = state ∧ (state.1.succeedsSilently call ↔ state.1.mConfig = call.1) := by
  by_cases same : state.1.mConfig = call.1
  · obtain ⟨unchanged, silent⟩ := step_same same
    exact ⟨unchanged, fun _ => same, fun _ => silent⟩
  · simp only [step, succeedsSilently, locAPIGnssUpdateConfig, if_neg same, absent,
      Bool.false_eq_true, if_false]
    exact ⟨trivial, nofun, fun equal => absurd equal same⟩

/-! Runs of calls -/

theorem onlyRepeatsAccepted_cons : OnlyRepeatsAccepted state (call :: calls) ↔
    (state.1.succeedsSilently call → lastAnswer call.1 state.2 = some true) ∧
      OnlyRepeatsAccepted (step state call) calls := by
  constructor
  · intro all
    exact ⟨all [] call calls rfl, fun before later after cut =>
      all (call :: before) later after (by rw [cut]; rfl)⟩
  · rintro ⟨here, later⟩ before taken after cut
    cases before with
    | nil =>
      cases cut
      exact here
    | cons first before =>
      obtain ⟨rfl, rest⟩ := List.cons.inj cut
      exact later before taken after rest

/-- From a state on, with the answer to what it has stored. -/
theorem onlyRepeatsAccepted_iff (present : state.1.mLocationControlAPI = true) :
    OnlyRepeatsAccepted state calls ↔
      (∀ first ∈ calls.head?, first.1 = state.1.mConfig →
        lastAnswer state.1.mConfig state.2 = some true) ∧
      NoRefusedRepeat state.1.mConfig calls := by
  induction calls generalizing state with
  | nil => simp [OnlyRepeatsAccepted, NoRefusedRepeat]
  | cons call calls ih =>
    rw [onlyRepeatsAccepted_cons, noRefusedRepeat_cons]
    by_cases same : state.1.mConfig = call.1
    · obtain ⟨unchanged, silent⟩ := step_same same
      rw [unchanged, ih present]
      simp only [List.head?_cons, Option.mem_some_iff, forall_eq', ← same, silent, true_implies,
        ne_eq, not_true_eq_false, false_implies, true_and]
      exact ⟨fun both => ⟨both.1, both.2.2⟩, fun both => ⟨both.1, fun _ _ _ => both.1, both.2⟩⟩
    · obtain ⟨stored, still, answers, loud⟩ := step_other present same
      have answer : lastAnswer call.1 (call :: state.2) = some call.2 := by
        simp [lastAnswer]
      rw [ih still, stored, answers, answer]
      simp only [List.head?_cons, Option.mem_some_iff, forall_eq', loud, false_implies, true_and,
        Ne.symm same, ne_eq, not_false_eq_true, true_implies, Option.some.injEq]

theorem onlyRepeatsAccepted_absent_iff (absent : state.1.mLocationControlAPI = false)
    (never : lastAnswer state.1.mConfig state.2 = none) :
    OnlyRepeatsAccepted state calls ↔ ∀ call ∈ calls, call.1 ≠ state.1.mConfig := by
  induction calls with
  | nil => simp [OnlyRepeatsAccepted]
  | cons call calls ih =>
    obtain ⟨unchanged, silent⟩ := step_absent call absent
    rw [onlyRepeatsAccepted_cons, unchanged, ih, List.forall_mem_cons, silent]
    refine and_congr_left fun _ => ⟨fun accepted same => ?_, fun other same => ?_⟩
    · rw [same, never] at accepted
      cases accepted rfl
    · exact absurd same.symm other

/-- Exactly when the silent successes repeat what was accepted: with a control API, if the
first configuration is not all zeros and no refused one is repeated at once; without one,
if no configuration is all zeros. -/
theorem silent_successes_repeat_accepted_iff (zeros : GnssConfig) (mLocationControlAPI : Bool)
    (calls : List (GnssConfig × Bool)) :
    OnlyRepeatsAccepted (new zeros mLocationControlAPI, []) calls ↔
      if mLocationControlAPI then
        (∀ first ∈ calls.head?, first.1 ≠ zeros) ∧ NoRefusedRepeat zeros calls
      else ∀ call ∈ calls, call.1 ≠ zeros := by
  cases mLocationControlAPI with
  | false => exact onlyRepeatsAccepted_absent_iff rfl rfl
  | true =>
    rw [onlyRepeatsAccepted_iff rfl]
    refine and_congr_left fun _ => forall₂_congr fun first _ => ?_
    exact ⟨fun accepted same => Option.some_ne_none true (accepted same).symm,
      fun other same => absurd same other⟩

/-- A configuration is refused, and the same call again succeeds. -/
theorem a_refused_configuration_succeeds_when_repeated :
    ¬ ∀ calls : List (List (BitVec 8) × Bool), OnlyRepeatsAccepted (new [0] true, []) calls := by
  intro all
  have repeated := all [([1], false), ([1], true)] [([1], false)] ([1], true) [] rfl rfl
  revert repeated
  decide

end LocationAPIControlClient
end Msm8917Common.Location
