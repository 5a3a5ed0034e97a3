import Mathlib.Data.List.Basic

/-! Runs of a deterministic step function over a list of inputs. What the
environment decides (an answer, a failure, the next thread to move) is part of
the input, so a statement over every list of inputs is a statement over every
interleaving. Nothing here names a particular program. -/
namespace Msm8917Common.Runs

variable {σ ι : Type*}

/-- The states a run visits, the one it starts from included. -/
def states (step : σ → ι → σ) : σ → List ι → List σ
  | state, [] => [state]
  | state, input :: rest => state :: states step (step state input) rest

/-- The steps a run takes: each input with the state that receives it. -/
def steps (step : σ → ι → σ) : σ → List ι → List (σ × ι)
  | _, [] => []
  | state, input :: rest => (state, input) :: steps step (step state input) rest

/-- A state some run from `start` ends in. -/
def Reachable (step : σ → ι → σ) (start state : σ) : Prop :=
  ∃ inputs : List ι, inputs.foldl step start = state

variable {step : σ → ι → σ} {inv good : σ → Prop} {cond : σ → ι → Prop}

theorem start_mem_states (start : σ) (inputs : List ι) : start ∈ states step start inputs := by
  cases inputs <;> simp [states]

theorem end_mem_states (start : σ) (inputs : List ι) :
    inputs.foldl step start ∈ states step start inputs := by
  induction inputs generalizing start with
  | nil => exact List.mem_singleton_self _
  | cons input rest ih => exact List.mem_cons_of_mem _ (ih (step start input))

theorem input_of_mem_steps {start : σ} {inputs : List ι} {taken : σ × ι}
    (member : taken ∈ steps step start inputs) : taken.2 ∈ inputs := by
  induction inputs generalizing start with
  | nil => exact absurd member List.not_mem_nil
  | cons input rest ih =>
    rcases List.mem_cons.mp member with rfl | later
    · exact List.mem_cons_self
    · exact List.mem_cons_of_mem _ (ih later)

theorem state_of_mem_steps {start : σ} {inputs : List ι} {taken : σ × ι}
    (member : taken ∈ steps step start inputs) : taken.1 ∈ states step start inputs := by
  induction inputs generalizing start with
  | nil => exact absurd member List.not_mem_nil
  | cons input rest ih =>
    rcases List.mem_cons.mp member with rfl | later
    · exact List.mem_cons_self
    · exact List.mem_cons_of_mem _ (ih later)

theorem last_mem_steps (start : σ) (inputs : List ι) (last : ι) :
    (inputs.foldl step start, last) ∈ steps step start (inputs ++ [last]) := by
  induction inputs generalizing start with
  | nil => exact List.mem_singleton_self _
  | cons input rest ih => exact List.mem_cons_of_mem _ (ih (step start input))

/-- The last of a number of equal steps. -/
theorem last_mem_steps_replicate (start : σ) (input : ι) (before : ℕ) :
    ((List.replicate before input).foldl step start, input) ∈
      steps step start (List.replicate (before + 1) input) := by
  rw [List.replicate_succ']
  exact last_mem_steps start _ input

/-- What holds of every state a run visits holds at its start and after each step. -/
theorem forall_states_iff (start : σ) (inputs : List ι) {property : σ → Prop} :
    (∀ state ∈ states step start inputs, property state) ↔
      property start ∧ ∀ taken ∈ steps step start inputs, property (step taken.1 taken.2) := by
  induction inputs generalizing start with
  | nil => simp [states, steps]
  | cons input rest ih => simp only [states, steps, List.forall_mem_cons, ih]

/-- An invariant that every step keeps under a condition on the step holds in
every state of a run whose steps all meet the condition. -/
theorem invariant_while (keeps : ∀ state input, inv state → cond state input →
      inv (step state input)) (inputs : List ι) {start : σ} (init : inv start)
    (met : ∀ taken ∈ steps step start inputs, cond taken.1 taken.2) :
    ∀ state ∈ states step start inputs, inv state := by
  induction inputs generalizing start with
  | nil =>
    intro state visited
    cases List.mem_singleton.mp visited
    exact init
  | cons input rest ih =>
    intro state visited
    simp only [steps, List.forall_mem_cons] at met
    rcases List.mem_cons.mp visited with rfl | later
    · exact init
    · exact ih (keeps start input init met.1) met.2 state later

/-- An invariant of every step holds in every state of every run. -/
theorem invariant_states (keeps : ∀ state input, inv state → inv (step state input))
    (inputs : List ι) {start : σ} (init : inv start) :
    ∀ state ∈ states step start inputs, inv state :=
  invariant_while (fun state input held (_ : True) => keeps state input held)
    inputs init (fun _ _ => trivial)

/-- An invariant of every step holds in every reachable state. -/
theorem invariant_reachable (keeps : ∀ state input, inv state → inv (step state input))
    {start state : σ} (init : inv start) (reached : Reachable step start state) : inv state := by
  obtain ⟨inputs, rfl⟩ := reached
  induction inputs generalizing start with
  | nil => exact init
  | cons input rest ih => exact ih (keeps start input init)

/-- A property that a step keeps, with what the step itself must show, exactly
when a condition holds of the step: over a run it is the same, step by step.
The invariant is what every run has, whether its steps meet the condition or not;
what is assumed of the environment may be used for each step. -/
theorem always_with_events_iff_each_step_under {assumed event : σ → ι → Prop}
    (keeps : ∀ state input, inv state → assumed state input → inv (step state input))
    (exact : ∀ state input, inv state → good state → assumed state input →
      (good (step state input) ∧ event state input ↔ cond state input))
    (inputs : List ι) {start : σ} (init : inv start) (initGood : good start)
    (holds : ∀ taken ∈ steps step start inputs, assumed taken.1 taken.2) :
    ((∀ state ∈ states step start inputs, good state) ∧
        ∀ taken ∈ steps step start inputs, event taken.1 taken.2) ↔
      ∀ taken ∈ steps step start inputs, cond taken.1 taken.2 := by
  induction inputs generalizing start with
  | nil => simpa [states, steps] using initGood
  | cons input rest ih =>
    simp only [states, steps, List.forall_mem_cons] at holds ⊢
    obtain ⟨holdsNow, holdsLater⟩ := holds
    constructor
    · rintro ⟨⟨_, later⟩, shown, laterShown⟩
      have next := later _ (start_mem_states _ _)
      exact ⟨(exact start input init initGood holdsNow).mp ⟨next, shown⟩,
        (ih (keeps _ _ init holdsNow) next holdsLater).mp ⟨later, laterShown⟩⟩
    · rintro ⟨first, later⟩
      obtain ⟨next, shown⟩ := (exact start input init initGood holdsNow).mpr first
      obtain ⟨laterGood, laterShown⟩ := (ih (keeps _ _ init holdsNow) next holdsLater).mpr later
      exact ⟨⟨initGood, laterGood⟩, shown, laterShown⟩

theorem always_with_events_iff_each_step {event : σ → ι → Prop}
    (keeps : ∀ state input, inv state → inv (step state input))
    (exact : ∀ state input, inv state → good state →
      (good (step state input) ∧ event state input ↔ cond state input))
    (inputs : List ι) {start : σ} (init : inv start) (initGood : good start) :
    ((∀ state ∈ states step start inputs, good state) ∧
        ∀ taken ∈ steps step start inputs, event taken.1 taken.2) ↔
      ∀ taken ∈ steps step start inputs, cond taken.1 taken.2 :=
  always_with_events_iff_each_step_under (fun state input held _ => keeps state input held)
    (fun state input held fine (_ : True) => exact state input held fine)
    inputs init initGood fun _ _ => trivial

/-- A property that a step keeps exactly when the condition holds of the step
holds throughout a run exactly when the condition holds of each of its steps. -/
theorem always_iff_each_step_under {assumed : σ → ι → Prop}
    (keeps : ∀ state input, inv state → assumed state input → inv (step state input))
    (exact : ∀ state input, inv state → good state → assumed state input →
      (good (step state input) ↔ cond state input))
    (inputs : List ι) {start : σ} (init : inv start) (initGood : good start)
    (holds : ∀ taken ∈ steps step start inputs, assumed taken.1 taken.2) :
    (∀ state ∈ states step start inputs, good state) ↔
      ∀ taken ∈ steps step start inputs, cond taken.1 taken.2 := by
  have shown : ∀ state input, inv state → good state → assumed state input →
      (good (step state input) ∧ True ↔ cond state input) := by
    simpa only [and_true] using exact
  have both := always_with_events_iff_each_step_under keeps shown inputs init initGood holds
  simpa only [implies_true, and_true] using both

theorem always_iff_each_step (keeps : ∀ state input, inv state → inv (step state input))
    (exact : ∀ state input, inv state → good state →
      (good (step state input) ↔ cond state input))
    (inputs : List ι) {start : σ} (init : inv start) (initGood : good start) :
    (∀ state ∈ states step start inputs, good state) ↔
      ∀ taken ∈ steps step start inputs, cond taken.1 taken.2 :=
  always_iff_each_step_under (fun state input held _ => keeps state input held)
    (fun state input held fine (_ : True) => exact state input held fine)
    inputs init initGood fun _ _ => trivial

/-- What each step of a run shows is decided by a condition on the step, where
the invariant says what the earlier steps that met the condition leave. -/
theorem events_iff_each_step {event : σ → ι → Prop}
    (keeps : ∀ state input, inv state → cond state input → inv (step state input))
    (exact : ∀ state input, inv state → (event state input ↔ cond state input))
    (inputs : List ι) {start : σ} (init : inv start) :
    (∀ taken ∈ steps step start inputs, event taken.1 taken.2) ↔
      ∀ taken ∈ steps step start inputs, cond taken.1 taken.2 := by
  induction inputs generalizing start with
  | nil => simp [steps]
  | cons input rest ih =>
    simp only [steps, List.forall_mem_cons, exact start input init]
    exact and_congr_right fun met => ih (keeps start input init met)

/-- What an invariant shows of a step holds of each step of every run. -/
theorem events_of_invariant {event : σ → ι → Prop}
    (keeps : ∀ state input, inv state → inv (step state input))
    (shows : ∀ state input, inv state → event state input)
    (inputs : List ι) {start : σ} (init : inv start) :
    ∀ taken ∈ steps step start inputs, event taken.1 taken.2 := by
  induction inputs generalizing start with
  | nil => exact fun taken member => absurd member List.not_mem_nil
  | cons input rest ih =>
    simp only [steps, List.forall_mem_cons]
    exact ⟨shows start input init, ih (keeps start input init)⟩

end Msm8917Common.Runs
