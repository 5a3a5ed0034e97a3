import Msm8917Common.BoundedLog
import Msm8917Common.Runs
import Msm8917Common.SystemStatus

/-! The vector of one kind of report as a log of its newest entries. Both ways to
store a report append it and drop the oldest one beyond `maxItem`; a report that
changes nothing only moves the reported time of the newest entry. -/
namespace Msm8917Common.Status.ReportHistory
open Runs BoundedLog

/-- The two calls on a vector, each with its report. -/
inductive ReportCall (kind : ReportKind) where
  | setIteminReport (s : SystemStatusItem kind.Item)
  | setDefaultIteminReport (s : SystemStatusItem kind.Item)

variable {kind : ReportKind}

def step (report : Report kind) : ReportCall kind → Report kind
  | .setIteminReport s => (setIteminReport report s).1
  | .setDefaultIteminReport s => report.push s

/-- The report as it enters the vector: collated with the newest entry, and copied. -/
def entered (report : Report kind) (s : SystemStatusItem kind.Item) :
    SystemStatusItem kind.Item :=
  { s with data := kind.copied (report.newest.elim s.data (kind.collate s.data)) }

/-- What a call does to the log, by what it returns. -/
def change (report : Report kind) : ReportCall kind → Change (SystemStatusItem kind.Item)
  | .setIteminReport s =>
    if (setIteminReport report s).2 then .store (entered report s)
    else .amend fun back => { back with mUtcReported := s.mUtcReported }
  | .setDefaultIteminReport s => .store { s with data := kind.copied s.data }

/-- Every report that was stored, the first one first. -/
def log (calls : List (ReportCall kind)) : List (SystemStatusItem kind.Item) :=
  ((steps step [] calls).map fun taken => change taken.1 taken.2).foldl record []

private theorem push_keeps_newest {report : Report kind} (bounded : report.length ≤ maxItem)
    (s : SystemStatusItem kind.Item) :
    KeepsNewest maxItem report (report.push s) (.store { s with data := kind.copied s.data }) := by
  unfold Report.push
  simp only [List.length_append, List.length_singleton]
  split
  · next beyond =>
    right
    have full : report.length = maxItem := by omega
    have positive : 0 < maxItem := by decide
    have nonempty : report ≠ [] := List.ne_nil_of_length_pos (by omega)
    exact ⟨full, List.tail_append_of_ne_nil nonempty⟩
  · next room =>
    left
    exact ⟨by omega, rfl⟩

theorem step_keeps_newest {report : Report kind} (bounded : report.length ≤ maxItem)
    (call : ReportCall kind) :
    KeepsNewest maxItem report (step report call) (change report call) := by
  cases call with
  | setDefaultIteminReport s => exact push_keeps_newest bounded s
  | setIteminReport s =>
    rw [step, change, entered, Report.newest, setIteminReport]
    rcases report.eq_nil_or_concat with rfl | ⟨init, back, rfl⟩
    · exact push_keeps_newest bounded s
    · simp only [List.concat_eq_append] at bounded ⊢
      simp only [List.getLast?_concat, List.dropLast_concat, Option.map_some, Option.elim_some]
      split
      · simp only [Bool.false_eq_true, ↓reduceIte, KeepsNewest, List.modifyLast_concat]
      · simp only [↓reduceIte]
        exact push_keeps_newest bounded { s with data := kind.collate s.data back.data }

theorem step_bounded (report : Report kind) (call : ReportCall kind)
    (bounded : report.length ≤ maxItem) : (step report call).length ≤ maxItem := by
  have keeps := step_keeps_newest bounded call
  cases happened : change report call with
  | store entry =>
    rw [happened] at keeps
    rcases keeps with ⟨short, after⟩ | ⟨full, after⟩
    · rw [after, List.length_append]
      exact short
    · have positive : 0 < maxItem := by decide
      rw [after, List.length_append, List.length_tail, List.length_singleton]
      omega
  | amend change =>
    rw [happened] at keeps
    rw [keeps, length_modifyLast]
    exact bounded

/-- From a kept part of a log, a run of calls ends in the kept part of the log it
goes on with. -/
theorem run_keeps_newest (calls : List (ReportCall kind)) {report : Report kind}
    {earlier : List (SystemStatusItem kind.Item)} (bounded : report.length ≤ maxItem)
    (newest : report = earlier.rtake maxItem) :
    calls.foldl step report =
      (((steps step report calls).map fun taken => change taken.1 taken.2).foldl record
        earlier).rtake maxItem := by
  induction calls generalizing report earlier with
  | nil => exact newest
  | cons call rest ih =>
    have keeps := step_keeps_newest bounded call
    simp only [steps, List.map_cons, List.foldl_cons]
    exact ih (step_bounded report call bounded) (keeps.newest (by decide) newest)

/-- Whatever is called in whatever order: a vector holds at most `maxItem` reports,
the newest of all that were stored, in the order of storing; and a call that drops
one drops the oldest, for a new one, at full size. -/
theorem report_history_is_bounded_log (calls : List (ReportCall kind)) :
    (calls.foldl step []).length ≤ maxItem ∧
      calls.foldl step [] = (log calls).rtake maxItem ∧
      ∀ taken ∈ steps step [] calls,
        KeepsNewest maxItem taken.1 (step taken.1 taken.2) (change taken.1 taken.2) := by
  have empty : ([] : Report kind).length ≤ maxItem := Nat.zero_le maxItem
  have visited := invariant_states step_bounded calls empty
  have taken_from : ∀ taken ∈ steps step ([] : Report kind) calls, taken.1.length ≤ maxItem :=
    fun taken member => visited taken.1 (state_of_mem_steps member)
  exact ⟨visited _ (end_mem_states [] calls), run_keeps_newest calls empty (List.rtake_nil maxItem).symm,
    fun taken member => step_keeps_newest (taken_from taken member) taken.2⟩

end Msm8917Common.Status.ReportHistory
