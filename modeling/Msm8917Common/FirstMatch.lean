import Mathlib.Data.List.Basic

/-! A walk along a singly linked list that stops at the first match and replaces
or unlinks it. The list is the chain of `p_next` pointers, its head the front.
Nothing here names a particular program. -/
namespace Msm8917Common.FirstMatch

variable {α β : Type*}

/-- What the walk stops at, and the list it leaves: `change` gives what stands in
the place of the match, or nothing when it is unlinked. -/
def onFirst (found : α → Bool) (change : α → Option α) : List α → Option α × List α
  | [] => (none, [])
  | cur :: p_next =>
    if found cur then (some cur, (change cur).toList ++ p_next)
    else
      let later := onFirst found change p_next
      (later.1, cur :: later.2)

variable {found : α → Bool} {change : α → Option α}

@[simp] theorem onFirst_nil : onFirst found change [] = (none, []) := rfl

theorem onFirst_cons_found {cur : α} (isFound : found cur = true) (p_next : List α) :
    onFirst found change (cur :: p_next) = (some cur, (change cur).toList ++ p_next) := by
  simp [onFirst, isFound]

theorem onFirst_cons_passed {cur : α} (passed : found cur = false) (p_next : List α) :
    onFirst found change (cur :: p_next) =
      ((onFirst found change p_next).1, cur :: (onFirst found change p_next).2) := by
  simp [onFirst, passed]

theorem onFirst_stop (list : List α) : (onFirst found change list).1 = list.find? found := by
  induction list with
  | nil => rfl
  | cons cur p_next ih =>
    cases isFound : found cur with
    | true => simp [onFirst_cons_found isFound, isFound]
    | false => simp [onFirst_cons_passed isFound, isFound, ih]

/-- Where nothing matches the walk leaves the list alone. -/
theorem onFirst_absent {list : List α} (absent : ∀ cur ∈ list, found cur = false) :
    onFirst found change list = (none, list) := by
  induction list with
  | nil => rfl
  | cons cur p_next ih =>
    rw [List.forall_mem_cons] at absent
    rw [onFirst_cons_passed absent.1, ih absent.2]

/-- Unlinking is `List.eraseP`. -/
theorem onFirst_unlink (list : List α) :
    (onFirst found (fun _ => none) list).2 = list.eraseP found := by
  induction list with
  | nil => rfl
  | cons cur p_next ih =>
    cases isFound : found cur with
    | true => simp [onFirst_cons_found isFound, isFound]
    | false => simp [onFirst_cons_passed isFound, isFound, ih]

/-- Once unlinked, a key that only one element has is gone. -/
theorem onFirst_unlinked_gone [DecidableEq β] {key : α → β} {wanted : β} {list : List α}
    (distinct : (list.map key).Nodup) :
    wanted ∉ (onFirst (key · = wanted) (fun _ => none) list).2.map key := by
  induction list with
  | nil => simp
  | cons cur p_next ih =>
    obtain ⟨notLater, laterDistinct⟩ := List.nodup_cons.mp distinct
    by_cases same : key cur = wanted
    · rw [onFirst_cons_found (by simpa using same)]
      simpa [← same] using notLater
    · rw [onFirst_cons_passed (by simpa using same), List.map_cons]
      apply List.not_mem_cons_of_ne_of_not_mem (fun equal => same equal.symm)
      exact ih laterDistinct

/-- A replacement that keeps a key of the element keeps the keys of the list. -/
theorem onFirst_map {key : α → β} (keeps : ∀ cur, ∃ new, change cur = some new ∧ key new = key cur)
    (list : List α) : (onFirst found change list).2.map key = list.map key := by
  induction list with
  | nil => rfl
  | cons cur p_next ih =>
    cases isFound : found cur with
    | true =>
      obtain ⟨new, changed, same⟩ := keeps cur
      simp [onFirst_cons_found isFound, changed, same]
    | false => simp [onFirst_cons_passed isFound, ih]

/-- The elements that do not match stay, in their order. -/
theorem onFirst_others (still : ∀ cur new, found cur = true → change cur = some new →
      found new = true) (list : List α) :
    (onFirst found change list).2.filter (!found ·) = list.filter (!found ·) := by
  induction list with
  | nil => rfl
  | cons cur p_next ih =>
    cases isFound : found cur with
    | true =>
      rw [onFirst_cons_found isFound, List.filter_append, List.filter_cons_of_neg (by simp [isFound])]
      cases changed : change cur with
      | none => simp
      | some new => simp [still cur new isFound changed]
    | false =>
      rw [onFirst_cons_passed isFound, List.filter_cons_of_pos (by simp [isFound]),
        List.filter_cons_of_pos (by simp [isFound]), ih]

end Msm8917Common.FirstMatch
