import Msm8917Common.GnssTracking

/-! What each multiplexer asks of the engine, as a function of the sessions alone:
nothing, a new fix, or no fix at all. Whether the engine accepts is decided by its
answer and by nothing else. -/
namespace Msm8917Common.Gnss.Multiplexers
open LocationSessionMap

/-- A call of the engine, `none` inside for `stopFix`; `none` outside where the
engine is left alone. -/
abbrev EngineCall := Option (Option LocPosMode)

def startCall (sessions : LocationSessionMap) (options : LocationOptions) : EngineCall :=
  if sessions.isEmpty then some (some (convertOptions options))
  else if options.minInterval < (sessions.smallestIntervalOptions nothing).minInterval then
    some (some (convertOptions options))
  else none

def updateCall (sessions : LocationSessionMap) (key : LocationSessionKey)
    (options : LocationOptions) : EngineCall :=
  if sessions.size = 1 then some (some (convertOptions options))
  else match sessions[key]? with
    | none => none
    | some updated =>
      let smallest := sessions.smallestIntervalOptions (only key)
      if options.minInterval < smallest.minInterval then some (some (convertOptions options))
      else if updated.minInterval < smallest.minInterval then some (some (convertOptions smallest))
      else none

def stopCall (sessions : LocationSessionMap) (key : LocationSessionKey) : EngineCall :=
  if sessions.size = 1 then some none
  else match sessions[key]? with
    | none => none
    | some stopped =>
      let smallest := sessions.smallestIntervalOptions (only key)
      if stopped.minInterval < smallest.minInterval then some (some (convertOptions smallest))
      else none

/-- Make a call and pass its answer on. -/
def ask (adapter : GnssAdapter) : EngineCall → GnssAdapter × LocationError
  | none => (adapter, .success)
  | some fix =>
    let (api, apiErr) := adapter.mLocApi.call fix
    ({ adapter with mLocApi := api }, if apiErr = 0 then .success else .generalFailure)

variable (adapter : GnssAdapter)

theorem start_asks (options : LocationOptions) : adapter.startTrackingMultiplex options =
    ask adapter (startCall adapter.mTrackingSessions options) := by
  unfold GnssAdapter.startTrackingMultiplex startCall
  split
  · rfl
  · simp only
    split <;> rfl

theorem update_asks (client id : Nat) (options : LocationOptions) :
    adapter.updateTrackingMultiplex client id options =
      ask adapter (updateCall adapter.mTrackingSessions ⟨client, id⟩ options) := by
  unfold GnssAdapter.updateTrackingMultiplex updateCall
  split
  · rfl
  · cases adapter.mTrackingSessions[(⟨client, id⟩ : LocationSessionKey)]? with
    | none => rfl
    | some updated =>
      simp only
      split
      · rfl
      · split <;> rfl

theorem stop_asks (client id : Nat) : adapter.stopTrackingMultiplex client id =
    ask adapter (stopCall adapter.mTrackingSessions ⟨client, id⟩) := by
  unfold GnssAdapter.stopTrackingMultiplex stopCall
  split
  · rfl
  · cases adapter.mTrackingSessions[(⟨client, id⟩ : LocationSessionKey)]? with
    | none => rfl
    | some stopped =>
      simp only
      split <;> rfl

@[simp] theorem ask_sessions (call : EngineCall) :
    (ask adapter call).1.mTrackingSessions = adapter.mTrackingSessions := by
  cases call <;> rfl

@[simp] theorem ask_clients (call : EngineCall) :
    (ask adapter call).1.mClientData = adapter.mClientData := by
  cases call <;> rfl

/-- The engine accepts a call if its next answer is 0, or it has none left. -/
theorem call_accepted {api : LocApi} (accepts : ∀ apiErr ∈ api.answers.head?, apiErr = 0)
    (fix : Option LocPosMode) : api.call fix = (⟨fix, api.answers.tail⟩, 0) := by
  obtain ⟨running, answers⟩ := api
  cases answers with
  | nil => rfl
  | cons apiErr rest =>
    have success : apiErr = 0 := accepts apiErr rfl
    simp [LocApi.call, success]

theorem ask_accepted {adapter : GnssAdapter} (accepts : ∀ apiErr ∈ adapter.mLocApi.answers.head?,
      apiErr = 0) (fix : Option LocPosMode) :
    ask adapter (some fix) =
      ({ adapter with mLocApi := ⟨fix, adapter.mLocApi.answers.tail⟩ }, .success) := by
  simp only [ask, call_accepted accepts, if_true]

theorem ask_refused {adapter : GnssAdapter} {apiErr : Int} {rest : List Int}
    (isAnswers : adapter.mLocApi.answers = apiErr :: rest) (refuses : apiErr ≠ 0)
    (fix : Option LocPosMode) :
    ask adapter (some fix) =
      ({ adapter with mLocApi := ⟨adapter.mLocApi.fix, rest⟩ }, .generalFailure) := by
  simp [ask, LocApi.call, isAnswers, refuses]

/-- Every call is either accepted or refused. -/
theorem ask_cases (fix : Option LocPosMode) :
    ask adapter (some fix) =
        ({ adapter with mLocApi := ⟨fix, adapter.mLocApi.answers.tail⟩ }, .success) ∨
      (ask adapter (some fix)).2 ≠ .success ∧
        (ask adapter (some fix)).1.mLocApi.fix = adapter.mLocApi.fix := by
  cases isAnswers : adapter.mLocApi.answers with
  | nil =>
    rw [← isAnswers]
    exact .inl (ask_accepted (by simp [isAnswers]) fix)
  | cons apiErr rest =>
    by_cases success : apiErr = 0
    · rw [← isAnswers]
      exact .inl (ask_accepted (by simp [isAnswers, success]) fix)
    · rw [ask_refused isAnswers success]
      exact .inr ⟨by simp, rfl⟩

end Msm8917Common.Gnss.Multiplexers
