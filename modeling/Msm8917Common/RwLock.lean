import Mathlib.Data.List.Nodup

/-! A readers-writer lock, with the threads that hold it. A thread that cannot have
the lock waits, and one that gives back what it does not hold has gone wrong.
Nothing here names a particular program. -/
namespace Msm8917Common.RwLocks

variable {τ : Type*} [DecidableEq τ]

inductive Mode where
  | read | write
  deriving DecidableEq

structure RwLock (τ : Type*) where
  readers : List τ
  writer : Option τ

namespace RwLock

def free : RwLock τ := ⟨[], none⟩

/-- How a thread holds the lock. -/
def held (thread : τ) (lock : RwLock τ) : Option Mode :=
  if lock.writer = some thread then some .write
  else if thread ∈ lock.readers then some .read else none

/-- `none`: the thread waits. -/
def rdlock (thread : τ) (lock : RwLock τ) : Option (RwLock τ) :=
  if lock.writer = none then some { lock with readers := thread :: lock.readers } else none

def wrlock (thread : τ) (lock : RwLock τ) : Option (RwLock τ) :=
  if lock.writer = none ∧ lock.readers = [] then some { lock with writer := some thread } else none

/-- `none`: the thread does not hold the lock. -/
def unlock (thread : τ) (lock : RwLock τ) : Option (RwLock τ) :=
  if lock.writer = some thread then some { lock with writer := none }
  else if thread ∈ lock.readers then some { lock with readers := lock.readers.erase thread }
  else none

/-- Nobody reads beside a writer. -/
def Alone (lock : RwLock τ) : Prop := lock.writer ≠ none → lock.readers = []

/-- A writer is alone, and nobody reads twice. -/
structure Proper (lock : RwLock τ) : Prop where
  alone : lock.Alone
  once : lock.readers.Nodup

omit [DecidableEq τ] in
theorem free_alone : (free : RwLock τ).Alone := fun held => absurd rfl held

omit [DecidableEq τ] in
theorem free_proper : (free : RwLock τ).Proper := ⟨free_alone, List.nodup_nil⟩

@[simp] theorem held_free (thread : τ) : (free : RwLock τ).held thread = none := by
  simp [free, held]

variable {lock next : RwLock τ} {thread other : τ}

/-- What `rdlock` leaves alone, also for a thread that holds the lock already. -/
theorem rdlock_alone (done : lock.rdlock thread = some next) :
    next.Alone ∧ ∀ other, other ≠ thread → next.held other = lock.held other := by
  unfold rdlock at done
  split at done
  · rename_i noWriter
    cases done
    refine ⟨fun held => absurd noWriter held, fun other different => ?_⟩
    simp [held, noWriter, different]
  · cases done

/-- What a successful `rdlock` changes. -/
theorem rdlock_spec (proper : lock.Proper) (unheld : lock.held thread = none)
    (done : lock.rdlock thread = some next) :
    next.Proper ∧ next.held thread = some .read ∧
      ∀ other, other ≠ thread → next.held other = lock.held other := by
  obtain ⟨alone, others⟩ := rdlock_alone done
  unfold rdlock at done
  split at done
  · rename_i noWriter
    cases done
    have notReader : thread ∉ lock.readers := by
      simpa [held, noWriter] using unheld
    exact ⟨⟨alone, List.nodup_cons.mpr ⟨notReader, proper.once⟩⟩, by simp [held, noWriter], others⟩
  · cases done

theorem wrlock_alone (done : lock.wrlock thread = some next) :
    next.Alone ∧ next.held thread = some .write ∧
      ∀ other, other ≠ thread → next.held other = lock.held other := by
  unfold wrlock at done
  split at done
  · rename_i idle
    cases done
    refine ⟨fun _ => idle.2, by simp [held], ?_⟩
    intro other different
    simp [held, idle.1, idle.2, different.symm]
  · cases done

theorem wrlock_spec (proper : lock.Proper) (done : lock.wrlock thread = some next) :
    next.Proper ∧ next.held thread = some .write ∧
      ∀ other, other ≠ thread → next.held other = lock.held other := by
  obtain ⟨alone, writes, others⟩ := wrlock_alone done
  refine ⟨⟨alone, ?_⟩, writes, others⟩
  unfold wrlock at done
  split at done
  · cases done
    exact proper.once
  · cases done

theorem unlock_alone (alone : lock.Alone) (done : lock.unlock thread = some next) :
    lock.held thread ≠ none ∧ next.Alone ∧
      ∀ other, other ≠ thread → next.held other = lock.held other := by
  unfold unlock at done
  split at done
  · rename_i writes
    cases done
    have noReaders : lock.readers = [] := alone (by simp [writes])
    refine ⟨by simp [held, writes], fun held => absurd rfl held, ?_⟩
    intro other different
    simp [held, writes, noReaders, different.symm]
  · rename_i notWriter
    split at done
    · rename_i reads
      cases done
      have noWriter : lock.writer = none := by
        by_contra someWriter
        rw [alone someWriter] at reads
        exact absurd reads List.not_mem_nil
      refine ⟨by simp [held, noWriter, reads], fun held => absurd noWriter held, ?_⟩
      intro other different
      simp [held, noWriter, List.mem_erase_of_ne different]
    · cases done

theorem unlock_spec (proper : lock.Proper) (done : lock.unlock thread = some next) :
    next.Proper ∧ next.held thread = none ∧
      ∀ other, other ≠ thread → next.held other = lock.held other := by
  obtain ⟨-, alone, others⟩ := unlock_alone proper.alone done
  unfold unlock at done
  split at done
  · rename_i writes
    cases done
    have noReaders : lock.readers = [] := proper.alone (by simp [writes])
    exact ⟨⟨alone, proper.once⟩, by simp [held, noReaders], others⟩
  · rename_i notWriter
    split at done
    · cases done
      exact ⟨⟨alone, proper.once.erase thread⟩,
        by simp [held, notWriter, proper.once.not_mem_erase], others⟩
    · cases done

theorem unlock_of_held (isHeld : lock.held thread ≠ none) : ∃ next, lock.unlock thread = some next := by
  unfold held at isHeld
  unfold unlock
  split
  · exact ⟨_, rfl⟩
  · rename_i notWriter
    rw [if_neg notWriter] at isHeld
    split
    · exact ⟨_, rfl⟩
    · rename_i notReader
      exact absurd (if_neg notReader) isHeld

end RwLock

end Msm8917Common.RwLocks
