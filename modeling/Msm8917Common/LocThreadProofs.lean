import Msm8917Common.LocThread
import Msm8917Common.Runs

/-! The delegate of a thread is deleted once, by the last of the two that let it go,
and nobody touches it afterwards. The runnable is deleted by its thread, unless the
parent cleared it before the thread had read it. -/
namespace Msm8917Common.LocThread
open Runs

/-- The parent has still to let the delegate go. -/
def ParentPc.owes : ParentPc → Nat
  | .destroy .delete => 0
  | .gone => 0
  | _ => 1

/-- So has the thread. -/
def SpawnedPc.owes : SpawnedPc → Nat
  | .never => 0
  | .destroy .delete => 0
  | .done => 0
  | _ => 1

/-- Who is about to delete the delegate. -/
def ThreadState.deleting (state : ThreadState) : Nat :=
  (if state.parent = .destroy .delete then 1 else 0) +
    (if state.spawned = .destroy .delete then 1 else 0)

/-- The thread has read its runnable, and has not deleted it yet. -/
def SpawnedPc.hasRunnable : SpawnedPc → Bool
  | .checkPrerun | .prerun | .checkLoop | .run | .checkPostrun | .postrun | .nullRunnable
  | .deleteRunnable => true
  | _ => false

/-- The thread is behind its runnable. -/
def SpawnedPc.past : SpawnedPc → Bool
  | .destroy _ | .done => true
  | _ => false

/-- The parent has a thread that was running when `start` looked. -/
def ParentPc.attached : ParentPc → Bool
  | .holds | .readJoinable | .stopRunnable | .stopJoinable | .join => true
  | _ => false

/-- What both threads rely on. -/
structure Shared (state : ThreadState) : Prop where
  counted : state.parent ≠ .construct → state.mRefCount = state.parent.owes + state.spawned.owes
  fresh : state.parent = .construct →
    state.mRefCount = 2 ∧ state.spawned = .never ∧ state.mRunnable = true
  ledger : state.deleted + state.deleting = if state.mRefCount = 0 then 1 else 0
  untouched : state.touchedDeleted = false

/-- What becomes of the runnable, and of `start`. -/
structure Owned (joinable : Bool) (state : ThreadState) : Prop where
  unused : state.usedDeleted = false
  runnable : state.runnableDeleted =
    if state.spawned.past = true ∧ state.stoppedFirst = false then 1 else 0
  cleared : state.stoppedFirst = true → state.mRunnable = false ∧ state.started = some true ∧
    (state.spawned = .load ∨ state.spawned.past = true)
  loading : state.spawned = .load → state.mRunnable = false → state.stoppedFirst = true
  undecided : state.parent = .construct ∨ state.parent = .checkRunning → state.started = none
  attached : state.parent.attached = true → state.started = some true
  refused : state.started = some false ∨ state.parent = .checkRunning ∧ state.mRunnable = false →
    state.parent.attached = false ∧
      (state.spawned = .never ∨ state.spawned = .deleteRunnable ∨ state.spawned.past = true)
  absent : state.spawned = .never → state.parent ≠ .construct → state.mRunnable = false
  kept : state.parent = .construct ∨ state.parent = .checkRunning ∧ state.spawned ≠ .never ∨
    state.parent.attached = true ∧ state.parent ≠ .join → state.mJoinable = joinable
  joined : joinable = true → state.started = some true → state.parent.attached = false →
    state.spawned = .done

theorem shared_start (joinable : Bool) : Shared (ThreadState.start joinable) := by
  constructor <;> simp [ThreadState.start, ThreadState.deleting]

section shared

variable {state next : ThreadState}

/-- Whoever still owes can rely on the delegate. -/
theorem undeleted_of_owes (shared : Shared state) (constructed : state.parent ≠ .construct)
    (owes : state.parent.owes + state.spawned.owes ≠ 0) :
    state.deleted = 0 ∧ state.deleting = 0 ∧ 0 < state.mRefCount := by
  have counted := shared.counted constructed
  have ledger := shared.ledger
  rw [if_neg (by omega)] at ledger
  omega

theorem untouched_of_undeleted (shared : Shared state) (undeleted : state.deleted = 0) :
    state.touch.touchedDeleted = false := by
  simp [ThreadState.touch, shared.untouched, undeleted]

/-- A step of a thread that still owes, and owes as much behind it. -/
theorem shared_move (shared : Shared state) (constructed : state.parent ≠ .construct)
    (owes : state.parent.owes + state.spawned.owes ≠ 0)
    (counts : next.mRefCount = state.mRefCount) (deleted : next.deleted = state.deleted)
    (touched : next.touchedDeleted = state.touchedDeleted ∨
      next.touchedDeleted = state.touch.touchedDeleted)
    (parent : next.parent ≠ .construct)
    (same : next.parent.owes + next.spawned.owes = state.parent.owes + state.spawned.owes)
    (deleting : next.deleting = state.deleting) : Shared next := by
  have undeleted := (undeleted_of_owes shared constructed owes).1
  refine ⟨fun _ => ?_, fun construct => absurd construct parent, ?_, ?_⟩
  · rw [counts, same]
    exact shared.counted constructed
  · rw [deleted, deleting, counts]
    exact shared.ledger
  · rcases touched with same | touch
    · rw [same, shared.untouched]
    · rw [touch, untouched_of_undeleted shared undeleted]

/-- One of the two lets go. The last one is to delete. -/
theorem shared_decrement (shared : Shared state) (constructed : state.parent ≠ .construct)
    (owes : state.parent.owes + state.spawned.owes = next.parent.owes + next.spawned.owes + 1)
    (counts : next.mRefCount = state.mRefCount - 1) (deleted : next.deleted = state.deleted)
    (touched : next.touchedDeleted = state.touch.touchedDeleted)
    (parent : next.parent ≠ .construct)
    (deleting : next.deleting = state.deleting + if state.mRefCount = 1 then 1 else 0) :
    Shared next := by
  have counted := shared.counted constructed
  obtain ⟨undeleted, quiet, positive⟩ := undeleted_of_owes shared constructed (by omega)
  refine ⟨fun _ => by omega, fun construct => absurd construct parent, ?_, ?_⟩
  · rw [deleted, deleting, undeleted, quiet, counts]
    split <;> split <;> omega
  · rw [touched, untouched_of_undeleted shared undeleted]

/-- The last one deletes. -/
theorem shared_delete (shared : Shared state) (constructed : state.parent ≠ .construct)
    (owes : next.parent.owes + next.spawned.owes = state.parent.owes + state.spawned.owes)
    (counts : next.mRefCount = state.mRefCount) (deleted : next.deleted = state.deleted + 1)
    (touched : next.touchedDeleted = state.touch.touchedDeleted)
    (parent : next.parent ≠ .construct) (deleting : state.deleting = next.deleting + 1) :
    Shared next := by
  have counted := shared.counted constructed
  have ledger := shared.ledger
  have undeleted : state.deleted = 0 := by
    split at ledger <;> omega
  refine ⟨fun _ => by omega, fun construct => absurd construct parent, ?_, ?_⟩
  · rw [counts, ← ledger]
    omega
  · rw [touched, untouched_of_undeleted shared undeleted]

theorem shared_parent_destroy (shared : Shared state) {pc : DestroyPc}
    (isAt : state.parent = .destroy pc) : Shared state.parentStep := by
  have constructed : state.parent ≠ .construct := by simp [isAt]
  cases pc with
  | check =>
    have owes : state.parent.owes + state.spawned.owes ≠ 0 := by simp [isAt, ParentPc.owes]
    have positive := (undeleted_of_owes shared constructed owes).2.2
    simp only [ThreadState.parentStep, isAt, ThreadState.destroy, positive, if_true]
    refine shared_move shared constructed owes rfl rfl (.inr rfl) nofun ?_ ?_
    · simp [isAt, ParentPc.owes, ThreadState.touch]
    · simp [ThreadState.deleting, ThreadState.touch, isAt]
  | decrement =>
    simp only [ThreadState.parentStep, isAt, ThreadState.destroy]
    split <;> rename_i branch <;> split at branch <;> cases branch <;> rename_i last <;>
      refine shared_decrement shared constructed ?_ rfl rfl rfl nofun ?_ <;>
      simp [ThreadState.deleting, ThreadState.touch, isAt, ParentPc.owes, last, Nat.add_comm]
  | delete =>
    simp only [ThreadState.parentStep, isAt, ThreadState.destroy]
    refine shared_delete shared constructed ?_ rfl rfl rfl nofun ?_
    · simp [isAt, ParentPc.owes, ThreadState.touch]
    · simp [ThreadState.deleting, ThreadState.touch, isAt, Nat.add_comm]

theorem constructed_of_spawned (shared : Shared state) (spawned : state.spawned ≠ .never) :
    state.parent ≠ .construct :=
  fun construct => spawned (shared.fresh construct).2.1

theorem shared_spawned_destroy (shared : Shared state) {pc : DestroyPc}
    (isAt : state.spawned = .destroy pc) (runReturns : Bool) :
    Shared (state.spawnedStep runReturns) := by
  have constructed := constructed_of_spawned shared (by simp [isAt])
  cases pc with
  | check =>
    have owes : state.parent.owes + state.spawned.owes ≠ 0 := by simp [isAt, SpawnedPc.owes]
    have positive := (undeleted_of_owes shared constructed owes).2.2
    simp only [ThreadState.spawnedStep, isAt, ThreadState.destroy, positive, if_true]
    refine shared_move shared constructed owes rfl rfl (.inr rfl) constructed ?_ ?_
    · simp [isAt, SpawnedPc.owes, ThreadState.touch]
    · simp [ThreadState.deleting, ThreadState.touch, isAt]
  | decrement =>
    simp only [ThreadState.spawnedStep, isAt, ThreadState.destroy]
    split <;> rename_i branch <;> split at branch <;> cases branch <;> rename_i last <;>
      refine shared_decrement shared constructed ?_ rfl rfl rfl constructed ?_ <;>
      simp [ThreadState.deleting, ThreadState.touch, isAt, SpawnedPc.owes, last, Nat.add_comm]
  | delete =>
    simp only [ThreadState.spawnedStep, isAt, ThreadState.destroy]
    refine shared_delete shared constructed ?_ rfl rfl rfl constructed ?_
    · simp [isAt, SpawnedPc.owes, ThreadState.touch]
    · simp [ThreadState.deleting, ThreadState.touch, isAt, Nat.add_comm]

/-- The parent goes from one place to another, and still owes. -/
theorem shared_parent_move (shared : Shared state) (constructed : state.parent ≠ .construct)
    (owes : state.parent.owes = 1) (counts : next.mRefCount = state.mRefCount)
    (deleted : next.deleted = state.deleted) (spawned : next.spawned = state.spawned)
    (touched : next.touchedDeleted = state.touchedDeleted ∨
      next.touchedDeleted = state.touch.touchedDeleted)
    (parent : next.parent ≠ .construct ∧ next.parent.owes = 1) : Shared next := by
  have quiet : ∀ pc : ParentPc, pc.owes = 1 → pc ≠ .destroy .delete := by
    rintro pc one rfl
    cases one
  refine shared_move shared constructed (by omega) counts deleted touched parent.1 ?_ ?_
  · rw [spawned, owes, parent.2]
  · simp [ThreadState.deleting, spawned, quiet _ owes, quiet _ parent.2]

theorem shared_parentStep (shared : Shared state) : Shared state.parentStep := by
  cases isAt : state.parent with
  | construct | holds | gone =>
    simpa [ThreadState.parentStep, isAt] using shared
  | destroy pc => exact shared_parent_destroy shared isAt
  | checkRunning | readJoinable | stopJoinable =>
    have constructed : state.parent ≠ .construct := by simp [isAt]
    simp only [ThreadState.parentStep, isAt]
    split <;> exact shared_parent_move shared constructed (by rw [isAt]; rfl) rfl rfl rfl (.inr rfl)
      ⟨nofun, rfl⟩
  | stopRunnable =>
    have constructed : state.parent ≠ .construct := by simp [isAt]
    simp only [ThreadState.parentStep, isAt]
    exact shared_parent_move shared constructed (by rw [isAt]; rfl) rfl rfl rfl (.inr rfl)
      ⟨nofun, rfl⟩
  | join =>
    have constructed : state.parent ≠ .construct := by simp [isAt]
    simp only [ThreadState.parentStep, isAt]
    split
    · exact shared_parent_move shared constructed (by rw [isAt]; rfl) rfl rfl rfl (.inl rfl)
        ⟨nofun, rfl⟩
    · exact shared

theorem shared_spawned_move (shared : Shared state) (owes : state.spawned.owes = 1)
    (counts : next.mRefCount = state.mRefCount) (deleted : next.deleted = state.deleted)
    (parent : next.parent = state.parent)
    (touched : next.touchedDeleted = state.touchedDeleted ∨
      next.touchedDeleted = state.touch.touchedDeleted)
    (spawned : next.spawned.owes = 1) : Shared next := by
  have quiet : ∀ pc : SpawnedPc, pc.owes = 1 → pc ≠ .destroy .delete := by
    rintro pc one rfl
    cases one
  have constructed := constructed_of_spawned shared (by
    intro never
    rw [never] at owes
    cases owes)
  refine shared_move shared constructed (by omega) counts deleted touched (parent ▸ constructed)
    ?_ ?_
  · rw [parent, owes, spawned]
  · simp [ThreadState.deleting, parent, quiet _ owes, quiet _ spawned]

theorem shared_spawnedStep (shared : Shared state) (runReturns : Bool) :
    Shared (state.spawnedStep runReturns) := by
  cases isAt : state.spawned with
  | never | done =>
    simpa [ThreadState.spawnedStep, isAt] using shared
  | destroy pc => exact shared_spawned_destroy shared isAt runReturns
  | load | checkPrerun | checkLoop | checkPostrun =>
    simp only [ThreadState.spawnedStep, isAt]
    split <;> exact shared_spawned_move shared (by rw [isAt]; rfl) rfl rfl rfl (.inr rfl) rfl
  | nullRunnable =>
    simp only [ThreadState.spawnedStep, isAt]
    exact shared_spawned_move shared (by rw [isAt]; rfl) rfl rfl rfl (.inr rfl) rfl
  | run =>
    simp only [ThreadState.spawnedStep, isAt]
    split <;> exact shared_spawned_move shared (by rw [isAt]; rfl) rfl rfl rfl (.inl rfl) rfl
  | prerun | postrun | deleteRunnable =>
    simp only [ThreadState.spawnedStep, isAt]
    exact shared_spawned_move shared (by rw [isAt]; rfl) rfl rfl rfl (.inl rfl) rfl

theorem shared_step (state : ThreadState) (event : ThreadEvent) (shared : Shared state) :
    Shared (state.step event) := by
  cases event with
  | created succeeds =>
    simp only [ThreadState.step]
    split
    · rename_i construct
      obtain ⟨two, never, -⟩ := shared.fresh construct
      have ledger := shared.ledger
      rw [two] at ledger
      have untouched := shared.untouched
      unfold ThreadState.construct
      cases succeeds <;>
        constructor <;>
        simp_all [ThreadState.deleting, ParentPc.owes, SpawnedPc.owes]
    · exact shared
  | stop | release =>
    simp only [ThreadState.step]
    split
    · rename_i holds
      exact shared_parent_move shared (by simp [holds]) (by rw [holds]; rfl) rfl rfl rfl (.inl rfl)
        ⟨nofun, rfl⟩
    · exact shared
  | parent => exact shared_parentStep shared
  | spawned runReturns => exact shared_spawnedStep shared runReturns

end shared

section owned

variable {joinable : Bool} {state next : ThreadState}

theorem owned_start (joinable : Bool) : Owned joinable (ThreadState.start joinable) := by
  constructor <;> simp [ThreadState.start, SpawnedPc.past, ParentPc.attached]

/-- The parent goes from one place to another, and what it relies on goes with it. -/
theorem owned_parent_move (owned : Owned joinable state)
    (same : next.usedDeleted = state.usedDeleted ∧ next.runnableDeleted = state.runnableDeleted ∧
      next.stoppedFirst = state.stoppedFirst ∧ next.mRunnable = state.mRunnable ∧
      next.started = state.started ∧ next.spawned = state.spawned)
    (constructed : state.parent ≠ .construct)
    (decided : next.parent ≠ .construct ∧ next.parent ≠ .checkRunning)
    (attached : next.parent.attached = true → state.parent.attached = true)
    (kept : next.parent.attached = true → next.parent ≠ .join → next.mJoinable = joinable)
    (joined : next.parent.attached = false → joinable = true → state.started = some true →
      state.spawned = .done) : Owned joinable next := by
  obtain ⟨used, deleted, stopped, runnable, started, spawned⟩ := same
  constructor
  · rw [used]
    exact owned.unused
  · rw [deleted, spawned, stopped]
    exact owned.runnable
  · rw [stopped, runnable, started, spawned]
    exact owned.cleared
  · rw [spawned, runnable, stopped]
    exact owned.loading
  · rintro (construct | check)
    · exact absurd construct decided.1
    · exact absurd check decided.2
  · intro isAttached
    rw [started]
    exact owned.attached (attached isAttached)
  · rintro (failed | check)
    · rw [started] at failed
      obtain ⟨detached, ended⟩ := owned.refused (.inl failed)
      rw [spawned]
      refine ⟨?_, ended⟩
      by_contra still
      simp [attached (by simpa using still)] at detached
    · exact absurd check.1 decided.2
  · intro never _
    rw [runnable]
    exact owned.absent (spawned ▸ never) constructed
  · rintro (construct | check | isAttached)
    · exact absurd construct decided.1
    · exact absurd check.1 decided.2
    · exact kept isAttached.1 isAttached.2
  · intro isJoinable isStarted detached
    rw [spawned]
    exact joined detached isJoinable (started ▸ isStarted)

theorem owned_parent_destroy (owned : Owned joinable state) {pc : DestroyPc}
    (isAt : state.parent = .destroy pc) : Owned joinable state.parentStep := by
  have constructed : state.parent ≠ .construct := by simp [isAt]
  have detached : state.parent.attached = false := by rw [isAt]; rfl
  have joined : ∀ next : ParentPc, next.attached = false → joinable = true →
      state.started = some true → state.spawned = .done :=
    fun _ _ isJoinable started => owned.joined isJoinable started detached
  cases pc with
  | check | decrement =>
    simp only [ThreadState.parentStep, isAt, ThreadState.destroy]
    split <;> rename_i branch <;> split at branch <;> cases branch
    all_goals
      exact owned_parent_move owned ⟨rfl, rfl, rfl, rfl, rfl, rfl⟩ constructed ⟨nofun, nofun⟩ nofun
        nofun (joined _)
  | delete =>
    simp only [ThreadState.parentStep, isAt, ThreadState.destroy]
    exact owned_parent_move owned ⟨rfl, rfl, rfl, rfl, rfl, rfl⟩ constructed ⟨nofun, nofun⟩ nofun
      nofun (joined _)

/-- `stop` clears the runnable, for a thread that may not have read it yet. -/
theorem owned_stopRunnable (owned : Owned joinable state) (isAt : state.parent = .stopRunnable) :
    Owned joinable state.parentStep := by
  have constructed : state.parent ≠ .construct := by simp [isAt]
  have isAttached : state.parent.attached = true := by rw [isAt]; rfl
  have started := owned.attached isAttached
  simp only [ThreadState.parentStep, isAt]
  constructor
  · exact owned.unused
  · have runnable := owned.runnable
    simp only [ThreadState.touch] at runnable ⊢
    rw [runnable]
    by_cases loads : state.spawned = .load
    · simp [loads, SpawnedPc.past]
    · simp [loads]
  · intro stopped
    refine ⟨rfl, started, ?_⟩
    rcases Bool.or_eq_true _ _ ▸ stopped with before | now
    · exact (owned.cleared before).2.2
    · exact .inl (of_decide_eq_true now)
  · intro loads _
    simp only [ThreadState.touch] at loads ⊢
    simp [loads]
  · exact fun early => by cases early with
    | inl construct => cases construct
    | inr check => cases check
  · exact fun _ => started
  · rintro (failed | check)
    · exact absurd (started.symm.trans failed) (by simp)
    · cases check.1
  · exact fun _ _ => rfl
  · exact fun _ => owned.kept (.inr (.inr ⟨isAttached, by simp [isAt]⟩))
  · exact fun _ _ detached => absurd detached (by simp [ParentPc.attached])

/-- `start` has looked whether its thread runs. -/
theorem owned_checkRunning (owned : Owned joinable state) (isAt : state.parent = .checkRunning) :
    Owned joinable state.parentStep := by
  have constructed : state.parent ≠ .construct := by simp [isAt]
  have undecided := owned.undecided (.inr isAt)
  have unstopped : state.stoppedFirst ≠ true := by
    intro stopped
    exact absurd (undecided.symm.trans (owned.cleared stopped).2.1) (by simp)
  simp only [ThreadState.parentStep, isAt]
  split
  · rename_i runs
    have spawned : state.spawned ≠ .never := fun never => by
      simp [owned.absent never constructed] at runs
    refine ⟨owned.unused, owned.runnable, fun stopped => absurd stopped unstopped, owned.loading,
      ?_, fun _ => rfl, ?_, fun never => absurd never spawned, ?_, ?_⟩
    · rintro (construct | check) <;> contradiction
    · rintro (failed | check) <;> simp_all
    · exact fun _ => owned.kept (.inr (.inl ⟨isAt, spawned⟩))
    · exact fun _ _ detached => absurd detached (by simp [ParentPc.attached])
  · rename_i stopped
    have ended := owned.refused (.inr ⟨isAt, by simpa using stopped⟩)
    refine ⟨owned.unused, owned.runnable, fun stopped => absurd stopped unstopped, owned.loading,
      ?_, ?_, fun _ => ⟨rfl, ended.2⟩, fun _ _ => Bool.not_eq_true _ ▸ stopped, ?_, ?_⟩
    · rintro (construct | check) <;> contradiction
    · exact fun attached => absurd attached (by simp [ParentPc.attached])
    · rintro (construct | check | attached) <;> simp_all [ParentPc.attached]
    · exact fun _ started => absurd started (by simp)

theorem owned_parentStep (owned : Owned joinable state) : Owned joinable state.parentStep := by
  cases isAt : state.parent with
  | construct | holds | gone => simpa [ThreadState.parentStep, isAt] using owned
  | checkRunning => exact owned_checkRunning owned isAt
  | stopRunnable => exact owned_stopRunnable owned isAt
  | destroy pc => exact owned_parent_destroy owned isAt
  | readJoinable | stopJoinable =>
    have constructed : state.parent ≠ .construct := by simp [isAt]
    have isAttached : state.parent.attached = true := by rw [isAt]; rfl
    have kept := owned.kept (.inr (.inr ⟨isAttached, by simp [isAt]⟩))
    simp only [ThreadState.parentStep, isAt]
    split
    · exact owned_parent_move owned ⟨rfl, rfl, rfl, rfl, rfl, rfl⟩ constructed ⟨nofun, nofun⟩
        (fun _ => isAttached) (fun _ other => by first | exact kept | exact absurd rfl other) nofun
    · rename_i detached
      rw [kept] at detached
      exact owned_parent_move owned ⟨rfl, rfl, rfl, rfl, rfl, rfl⟩ constructed ⟨nofun, nofun⟩ nofun
        nofun fun _ isJoinable _ => absurd isJoinable detached
  | join =>
    have constructed : state.parent ≠ .construct := by simp [isAt]
    simp only [ThreadState.parentStep, isAt]
    split
    · rename_i done
      exact owned_parent_move owned ⟨rfl, rfl, rfl, rfl, rfl, rfl⟩ constructed ⟨nofun, nofun⟩ nofun
        nofun fun _ _ _ => done
    · exact owned

/-- The thread has a runnable that nobody has cleared before and nobody has deleted. -/
theorem unstopped_of_running (owned : Owned joinable state)
    (running : state.spawned = .load ∧ state.mRunnable = true ∨ state.spawned.hasRunnable = true) :
    state.stoppedFirst = false ∧ state.runnableDeleted = 0 := by
  have behind : state.spawned.past = false := by
    rcases running with loads | has
    · rw [loads.1]
      rfl
    · cases isAt : state.spawned <;> simp_all [SpawnedPc.hasRunnable, SpawnedPc.past]
  refine ⟨?_, by rw [owned.runnable, behind]; rfl⟩
  by_contra stopped
  obtain ⟨cleared, -, loads | past⟩ := owned.cleared (by simpa using stopped)
  · rcases running with ⟨-, runs⟩ | has
    · simp [cleared] at runs
    · simp [loads, SpawnedPc.hasRunnable] at has
  · simp [behind] at past

/-- The thread goes on with its runnable. -/
theorem owned_spawned_move (owned : Owned joinable state)
    (running : state.spawned = .load ∧ state.mRunnable = true ∨ state.spawned.hasRunnable = true)
    (notLast : state.spawned ≠ .deleteRunnable)
    (same : next.parent = state.parent ∧ next.started = state.started ∧
      next.stoppedFirst = state.stoppedFirst ∧ next.mJoinable = state.mJoinable ∧
      next.runnableDeleted = state.runnableDeleted)
    (used : next.usedDeleted = state.usedDeleted ∨ next.usedDeleted = state.use.usedDeleted)
    (has : next.spawned.hasRunnable = true)
    (runnable : next.mRunnable = state.mRunnable ∨ next.spawned = .deleteRunnable) :
    Owned joinable next := by
  obtain ⟨parent, started, stopped, joins, deleted⟩ := same
  obtain ⟨unstopped, undeleted⟩ := unstopped_of_running owned running
  have noEnd : ¬ (state.spawned = .never ∨ state.spawned = .deleteRunnable ∨
      state.spawned.past = true) := by
    rcases running with ⟨loads, -⟩ | runs
    · simp [loads, SpawnedPc.past]
    · cases isAt : state.spawned <;> simp_all [SpawnedPc.hasRunnable, SpawnedPc.past]
  have behind : next.spawned ≠ .never ∧ next.spawned ≠ .load ∧ next.spawned.past = false := by
    cases isAt : next.spawned <;> simp_all [SpawnedPc.hasRunnable, SpawnedPc.past]
  constructor
  · rcases used with same | use
    · rw [same]
      exact owned.unused
    · rw [use]
      simp [ThreadState.use, owned.unused, undeleted]
  · rw [deleted, undeleted, behind.2.2]
    rfl
  · intro wasStopped
    rw [stopped, unstopped] at wasStopped
    cases wasStopped
  · exact fun loads => absurd loads behind.2.1
  · rw [parent, started]
    exact owned.undecided
  · rw [parent, started]
    exact owned.attached
  · rw [parent, started]
    rintro (failed | ⟨check, cleared⟩)
    · exact absurd (owned.refused (.inl failed)).2 noEnd
    · rcases runnable with same | last
      · exact absurd (owned.refused (.inr ⟨check, same ▸ cleared⟩)).2 noEnd
      · exact ⟨by rw [check]; rfl, .inr (.inl last)⟩
  · exact fun never => absurd never behind.1
  · rw [parent, joins]
    intro when
    exact owned.kept (when.imp_right fun later =>
      later.imp_left fun check => ⟨check.1, fun never => noEnd (.inl never)⟩)
  · rw [parent, started]
    intro isJoinable isStarted detached
    have done := owned.joined isJoinable isStarted detached
    exact absurd (.inr (.inr (by rw [done]; rfl))) noEnd

/-- The thread is behind its runnable. -/
theorem owned_spawned_past (owned : Owned joinable state)
    (alive : state.spawned ≠ .never ∧ state.spawned ≠ .done)
    (same : next.parent = state.parent ∧ next.started = state.started ∧
      next.stoppedFirst = state.stoppedFirst ∧ next.mJoinable = state.mJoinable ∧
      next.mRunnable = state.mRunnable)
    (unused : next.usedDeleted = false) (past : next.spawned.past = true)
    (deleted : next.runnableDeleted = if state.stoppedFirst = false then 1 else 0) :
    Owned joinable next := by
  obtain ⟨parent, started, stopped, joins, runnable⟩ := same
  have behind : next.spawned ≠ .never ∧ next.spawned ≠ .load := by
    constructor <;> intro isAt <;> simp [isAt, SpawnedPc.past] at past
  constructor
  · exact unused
  · simp [deleted, stopped, past]
  · rw [stopped, runnable, started]
    exact fun wasStopped => ⟨(owned.cleared wasStopped).1, (owned.cleared wasStopped).2.1, .inr past⟩
  · exact fun loads => absurd loads behind.2
  · rw [parent, started]
    exact owned.undecided
  · rw [parent, started]
    exact owned.attached
  · rw [parent, started, runnable]
    exact fun failed => ⟨(owned.refused failed).1, .inr (.inr past)⟩
  · exact fun never => absurd never behind.1
  · rw [parent, joins]
    intro when
    exact owned.kept (when.imp_right fun later =>
      later.imp_left fun check => ⟨check.1, alive.1⟩)
  · rw [parent, started]
    intro isJoinable isStarted detached
    exact absurd (owned.joined isJoinable isStarted detached) alive.2

theorem owned_spawnedStep (owned : Owned joinable state) (runReturns : Bool) :
    Owned joinable (state.spawnedStep runReturns) := by
  cases isAt : state.spawned with
  | never | done => simpa [ThreadState.spawnedStep, isAt] using owned
  | load =>
    simp only [ThreadState.spawnedStep, isAt]
    split
    · rename_i runs
      exact owned_spawned_move owned (.inl ⟨isAt, runs⟩) (by simp [isAt]) ⟨rfl, rfl, rfl, rfl, rfl⟩
        (.inl rfl) rfl (.inl rfl)
    · rename_i cleared
      have stopped := owned.loading isAt (by simpa using cleared)
      refine owned_spawned_past owned (by simp [isAt]) ⟨rfl, rfl, rfl, rfl, rfl⟩ owned.unused rfl ?_
      change state.runnableDeleted = _
      rw [owned.runnable, stopped]
      simp
  | checkPrerun | checkLoop | checkPostrun | run =>
    simp only [ThreadState.spawnedStep, isAt]
    split
    all_goals
      exact owned_spawned_move owned (.inr (by rw [isAt]; rfl)) (by simp [isAt])
        ⟨rfl, rfl, rfl, rfl, rfl⟩ (by first | exact .inl rfl | exact .inr rfl) rfl (.inl rfl)
  | prerun | postrun =>
    simp only [ThreadState.spawnedStep, isAt]
    exact owned_spawned_move owned (.inr (by rw [isAt]; rfl)) (by simp [isAt])
      ⟨rfl, rfl, rfl, rfl, rfl⟩ (.inr rfl) rfl (.inl rfl)
  | nullRunnable =>
    simp only [ThreadState.spawnedStep, isAt]
    exact owned_spawned_move owned (.inr (by rw [isAt]; rfl)) (by simp [isAt])
      ⟨rfl, rfl, rfl, rfl, rfl⟩ (.inl rfl) rfl (.inr rfl)
  | deleteRunnable =>
    obtain ⟨unstopped, undeleted⟩ := unstopped_of_running owned (.inr (by rw [isAt]; rfl))
    simp only [ThreadState.spawnedStep, isAt]
    refine owned_spawned_past owned (by simp [isAt]) ⟨rfl, rfl, rfl, rfl, rfl⟩ ?_ rfl ?_
    · simp [ThreadState.use, owned.unused, undeleted]
    · simp [undeleted, unstopped]
  | destroy pc =>
    have deleted : state.runnableDeleted = if state.stoppedFirst = false then 1 else 0 := by
      rw [owned.runnable, isAt]
      simp [SpawnedPc.past]
    cases pc with
    | check | decrement =>
      simp only [ThreadState.spawnedStep, isAt, ThreadState.destroy]
      split <;> rename_i branch <;> split at branch <;> cases branch
      all_goals
        exact owned_spawned_past owned (by simp [isAt]) ⟨rfl, rfl, rfl, rfl, rfl⟩ owned.unused rfl
          deleted
    | delete =>
      simp only [ThreadState.spawnedStep, isAt, ThreadState.destroy]
      exact owned_spawned_past owned (by simp [isAt]) ⟨rfl, rfl, rfl, rfl, rfl⟩ owned.unused rfl
        deleted

theorem owned_construct (owned : Owned joinable state) (construct : state.parent = .construct)
    (never : state.spawned = .never) (isRunnable : state.mRunnable = true) (succeeds : Bool) :
    Owned joinable (state.construct succeeds) := by
  have undecided := owned.undecided (.inl construct)
  have kept := owned.kept (.inl construct)
  have unstopped : state.stoppedFirst ≠ true := by
    intro stopped
    exact absurd (isRunnable.symm.trans (owned.cleared stopped).1) (by simp)
  have undeleted : state.runnableDeleted = 0 := by
    rw [owned.runnable, never]
    rfl
  unfold ThreadState.construct
  cases succeeds with
  | true =>
    refine ⟨owned.unused, undeleted, fun stopped => absurd stopped unstopped, ?_, fun _ => undecided,
      nofun, ?_, nofun, fun _ => kept, ?_⟩
    · exact fun _ cleared => absurd (isRunnable.symm.trans cleared) (by simp)
    · rintro (failed | ⟨-, cleared⟩)
      · exact absurd (undecided.symm.trans failed) (by simp)
      · exact absurd (isRunnable.symm.trans cleared) (by simp)
    · exact fun _ started => absurd (undecided.symm.trans started) (by simp)
  | false =>
    refine ⟨owned.unused, owned.runnable, fun stopped => absurd stopped unstopped, ?_,
      fun _ => undecided, nofun, ?_, fun _ _ => rfl, ?_, ?_⟩
    · exact fun loads => absurd (never.symm.trans loads) (by simp)
    · exact fun _ => ⟨rfl, .inl never⟩
    · rintro (again | spawned | attached)
      · cases again
      · exact absurd never spawned.2
      · cases attached.1
    · exact fun _ started => absurd (undecided.symm.trans started) (by simp)

theorem owned_step (joinable : Bool) (state : ThreadState) (event : ThreadEvent)
    (shared : Shared state) (owned : Owned joinable state) : Owned joinable (state.step event) := by
  cases event with
  | created succeeds =>
    simp only [ThreadState.step]
    split
    · rename_i construct
      obtain ⟨-, never, isRunnable⟩ := shared.fresh construct
      exact owned_construct owned construct never isRunnable succeeds
    · exact owned
  | stop | release =>
    simp only [ThreadState.step]
    split
    · rename_i holds
      have isAttached : state.parent.attached = true := by rw [holds]; rfl
      exact owned_parent_move owned ⟨rfl, rfl, rfl, rfl, rfl, rfl⟩ (by simp [holds]) ⟨nofun, nofun⟩
        (fun _ => isAttached)
        (fun _ _ => owned.kept (.inr (.inr ⟨isAttached, by simp [holds]⟩))) nofun
    · exact owned
  | parent => exact owned_parentStep owned
  | spawned runReturns => exact owned_spawnedStep owned runReturns

end owned

theorem shared_and_owned (joinable : Bool) (events : List ThreadEvent) :
    ∀ state ∈ states ThreadState.step (ThreadState.start joinable) events,
      Shared state ∧ Owned joinable state := by
  have keeps : ∀ state event, Shared state ∧ Owned joinable state →
      Shared (ThreadState.step state event) ∧ Owned joinable (ThreadState.step state event) :=
    fun state event held =>
      ⟨shared_step state event held.1, owned_step joinable state event held.1 held.2⟩
  exact invariant_states keeps events ⟨shared_start joinable, owned_start joinable⟩

/-- However parent and thread interleave: nobody touches the delegate or the runnable
after its deletion, neither is deleted twice, and when both have let the delegate go it
is deleted. A joinable thread whose `start` returned true has ended when its parent has
let it go. -/
theorem thread_objects_are_deleted_once (joinable : Bool) (events : List ThreadEvent) :
    ∀ state ∈ states ThreadState.step (ThreadState.start joinable) events,
      state.touchedDeleted = false ∧ state.usedDeleted = false ∧
      state.deleted ≤ 1 ∧ state.runnableDeleted ≤ 1 ∧
      (state.parent = .gone → (state.spawned = .done ∨ state.spawned = .never) →
        state.deleted = 1) ∧
      (joinable = true → state.started = some true → state.parent = .gone →
        state.spawned = .done) := by
  intro state visited
  obtain ⟨shared, owned⟩ := shared_and_owned joinable events state visited
  have ledger := shared.ledger
  refine ⟨shared.untouched, owned.unused, ?_, ?_, ?_, ?_⟩
  · split at ledger <;> omega
  · rw [owned.runnable]
    split <;> omega
  · intro gone ended
    have counted := shared.counted (by simp [gone])
    have zero : state.mRefCount = 0 := by
      rcases ended with done | never
      · rw [counted, gone, done]
        rfl
      · rw [counted, gone, never]
        rfl
    have nobody : state.deleting = 0 := by
      rcases ended with done | never
      · simp [ThreadState.deleting, gone, done]
      · simp [ThreadState.deleting, gone, never]
    rw [if_pos zero] at ledger
    omega
  · intro isJoinable started gone
    exact owned.joined isJoinable started (by simp [gone, ParentPc.attached])

/-- A joinable thread that its parent stops while it runs. -/
theorem stopped_thread_is_deleted :
    ([.created true, .spawned true, .parent, .stop, .spawned true, .parent, .spawned true, .parent,
        .spawned true, .spawned true, .spawned true, .spawned true, .spawned true, .spawned true,
        .parent, .parent, .parent, .parent].foldl ThreadState.step (ThreadState.start true)).deleted = 1 :=
  (thread_objects_are_deleted_once true _ _ (end_mem_states _ _)).2.2.2.2.1 (by decide)
    (.inl (by decide))

/-- A thread that has ended has deleted its runnable, unless `stop` had cleared it before
the thread read it: then nobody deletes it. And `start` says that it has failed when no
thread was created, or when the thread had ended its run before `start` looked: then the
thread deletes the runnable that its client is told to keep. -/
theorem runnable_is_deleted_unless_stopped_first (joinable : Bool) (events : List ThreadEvent) :
    ∀ state ∈ states ThreadState.step (ThreadState.start joinable) events,
      (state.spawned = .done →
        (state.runnableDeleted = 1 ↔ state.stoppedFirst = false)) ∧
      (state.started = some false → state.spawned = .never ∧ state.runnableDeleted = 0 ∨
        state.stoppedFirst = false ∧
          (state.spawned = .deleteRunnable ∨ state.runnableDeleted = 1)) := by
  intro state visited
  obtain ⟨shared, owned⟩ := shared_and_owned joinable events state visited
  constructor
  · intro done
    rw [owned.runnable, done]
    cases state.stoppedFirst <;> simp [SpawnedPc.past]
  · intro refused
    have first : state.stoppedFirst = false := by
      by_contra stopped
      have started := (owned.cleared (by simpa using stopped)).2.1
      rw [refused] at started
      cases started
    obtain ⟨-, never | deleting | past⟩ := owned.refused (.inl refused)
    · left
      rw [owned.runnable, never]
      simp [SpawnedPc.past]
    · exact .inr ⟨first, .inl deleting⟩
    · right
      rw [owned.runnable]
      simp [first, past]

/-- A thread whose run has ended before `start` looks. -/
theorem quick_thread_deletes_its_runnable :
    let state := [.created true, .spawned true, .spawned true, .spawned true, .spawned true,
      .spawned false, .spawned true, .spawned true, .spawned true, .parent].foldl ThreadState.step
        (ThreadState.start false)
    state.stoppedFirst = false ∧ (state.spawned = .deleteRunnable ∨ state.runnableDeleted = 1) :=
  ((runnable_is_deleted_unless_stopped_first false _ _ (end_mem_states _ _)).2
    (by decide)).resolve_left (by decide)

end Msm8917Common.LocThread
