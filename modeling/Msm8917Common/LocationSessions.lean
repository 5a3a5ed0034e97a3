import Mathlib

/-! The tracking sessions of `GnssAdapter`: a map from sessions to their options,
in the order of `std::map`, and the smallest interval some of them ask for. -/
namespace Msm8917Common.Gnss

/-- `LocationSessionKey`. A client is its address. -/
structure LocationSessionKey where
  client : Nat
  id : Nat
  deriving DecidableEq, Repr

/-- `operator <` of `LocationSessionKey`: by the id, then by the client. -/
instance : Ord LocationSessionKey :=
  ⟨compareLex (compareOn LocationSessionKey.id) (compareOn LocationSessionKey.client)⟩

instance : Std.TransOrd LocationSessionKey :=
  inferInstanceAs (Std.TransCmp
    (compareLex (compareOn LocationSessionKey.id) (compareOn LocationSessionKey.client)))

instance : Std.LawfulEqOrd LocationSessionKey where
  eq_of_compare {left right} same := by
    obtain ⟨sameId, sameClient⟩ := compareLex_eq_eq.mp same
    obtain ⟨client, id⟩ := left
    obtain ⟨other, otherId⟩ := right
    cases Nat.compare_eq_eq.mp sameId
    cases Nat.compare_eq_eq.mp sameClient
    rfl

/-- `GnssSuplMode`. -/
inductive GnssSuplMode where
  | standalone | msb | msa
  deriving DecidableEq, Repr

structure LocationOptions where
  size : Nat
  minInterval : Nat
  minDistance : Nat
  mode : GnssSuplMode
  deriving DecidableEq, Repr

/-- `LocationOptions` as `{}` makes it. -/
def LocationOptions.zero : LocationOptions := ⟨0, 0, 0, .standalone⟩

abbrev LocationSessionMap := Std.TreeMap LocationSessionKey LocationOptions

namespace LocationSessionMap

/-- The options with the smallest interval among the sessions that are not
skipped; the first of them where several have it. -/
def smallestIntervalOptions (sessions : LocationSessionMap)
    (skips : LocationSessionKey → Bool) : LocationOptions :=
  sessions.toList.foldl (fun smallest session =>
    -- A size of zero means that none was found yet.
    if !skips session.1 &&
        (smallest.size == 0 || session.2.minInterval < smallest.minInterval) then session.2
    else smallest) .zero

/-- The intervals that the sessions other than the skipped ones ask for. -/
def intervals (sessions : LocationSessionMap) (skips : LocationSessionKey → Bool) : Set Nat :=
  {interval | ∃ key, ∃ options : LocationOptions, skips key = false ∧
    sessions[key]? = some options ∧ options.minInterval = interval}

/-- No session is skipped. -/
def nothing : LocationSessionKey → Bool := fun _ => false

/-- One session is skipped. -/
def only (key : LocationSessionKey) : LocationSessionKey → Bool := (· == key)

/-- The options of every session have a size. -/
def Sized (sessions : LocationSessionMap) : Prop :=
  ∀ (key : LocationSessionKey) (options : LocationOptions), sessions[key]? = some options →
    options.size ≠ 0

variable {sessions : LocationSessionMap} {skips : LocationSessionKey → Bool}
  {key : LocationSessionKey} {old options : LocationOptions}

section Smallest

private theorem fold_smallest (skips : LocationSessionKey → Bool)
    (rest : List (LocationSessionKey × LocationOptions))
    (sized : ∀ session ∈ rest, session.2.size ≠ 0) (found : LocationOptions) :
    let smallest := rest.foldl (fun smallest session =>
      if !skips session.1 &&
          (smallest.size == 0 || session.2.minInterval < smallest.minInterval) then session.2
      else smallest) found
    (smallest = found ∨ ∃ session ∈ rest, skips session.1 = false ∧ session.2 = smallest) ∧
      (found.size ≠ 0 → smallest.minInterval ≤ found.minInterval) ∧
      ∀ session ∈ rest, skips session.1 = false →
        smallest.size ≠ 0 ∧ smallest.minInterval ≤ session.2.minInterval := by
  induction rest generalizing found with
  | nil => exact ⟨.inl rfl, fun _ => Nat.le_refl _, fun _ member => absurd member List.not_mem_nil⟩
  | cons session rest ih =>
    simp only [List.forall_mem_cons] at sized
    obtain ⟨sizedHere, sizedRest⟩ := sized
    simp only [List.foldl_cons]
    split
    · next taken =>
      simp only [Bool.and_eq_true, Bool.not_eq_true', Bool.or_eq_true, beq_iff_eq,
        decide_eq_true_eq] at taken
      obtain ⟨from_rest, bound, least⟩ := ih sizedRest session.2
      have lower := bound sizedHere
      refine ⟨?_, fun held => ?_, ?_⟩
      · rcases from_rest with same | ⟨other, member, counts, same⟩
        · exact .inr ⟨session, List.mem_cons_self, taken.1, same.symm⟩
        · exact .inr ⟨other, List.mem_cons_of_mem _ member, counts, same⟩
      · have smaller := taken.2.resolve_left held
        omega
      · intro other member counts
        rcases List.mem_cons.mp member with rfl | later
        · refine ⟨?_, lower⟩
          rcases from_rest with same | ⟨third, member, _, same⟩
          · rw [same]
            exact sizedHere
          · rw [← same]
            exact sizedRest third member
        · exact least other later counts
    · next passed =>
      obtain ⟨from_rest, bound, least⟩ := ih sizedRest found
      refine ⟨?_, bound, ?_⟩
      · exact from_rest.imp_right fun ⟨other, member, rest⟩ =>
          ⟨other, List.mem_cons_of_mem _ member, rest⟩
      · intro other member counts
        rcases List.mem_cons.mp member with rfl | later
        · simp only [counts, Bool.not_false, Bool.true_and, Bool.or_eq_true, beq_iff_eq,
            decide_eq_true_eq, not_or] at passed
          have lower := bound passed.1
          refine ⟨?_, by omega⟩
          rcases from_rest with same | ⟨third, member, _, same⟩
          · rw [same]
            exact passed.1
          · rw [← same]
            exact sizedRest third member
        · exact least other later counts

/-- The options that are found have the smallest interval, and have no size
exactly if there is no session to choose from. -/
theorem smallest_spec (sized : Sized sessions) (skips : LocationSessionKey → Bool) :
    ((sessions.smallestIntervalOptions skips).size = 0 ∧ sessions.intervals skips = ∅) ∨
      (∃ key, skips key = false ∧
        sessions[key]? = some (sessions.smallestIntervalOptions skips)) ∧
        IsLeast (sessions.intervals skips)
          (sessions.smallestIntervalOptions skips).minInterval := by
  obtain ⟨origin, _, least⟩ := fold_smallest skips sessions.toList
    (fun session member => sized _ _ (Std.TreeMap.mem_toList_iff_getElem?_eq_some.mp member)) .zero
  rcases origin with same | ⟨⟨key, options⟩, member, counts, same⟩
  · left
    have empty : (sessions.smallestIntervalOptions skips).size = 0 :=
      congrArg LocationOptions.size same
    refine ⟨empty, Set.eq_empty_iff_forall_notMem.mpr ?_⟩
    rintro _ ⟨key, options, counts, live, rfl⟩
    exact (least (key, options) (Std.TreeMap.mem_toList_iff_getElem?_eq_some.mpr live) counts).1
      empty
  · right
    have live := Std.TreeMap.mem_toList_iff_getElem?_eq_some.mp member
    change options = sessions.smallestIntervalOptions skips at same
    rw [same] at live
    refine ⟨⟨key, counts, live⟩, ⟨key, _, counts, live, rfl⟩, ?_⟩
    rintro _ ⟨other, held, counts, live, rfl⟩
    exact (least (other, held) (Std.TreeMap.mem_toList_iff_getElem?_eq_some.mpr live) counts).2

end Smallest

section Update

theorem getElem?_insert (other : LocationSessionKey) :
    (sessions.insert key options)[other]? = if other = key then some options else sessions[other]? := by
  rw [Std.TreeMap.getElem?_insert]
  simp only [Std.LawfulEqCmp.compare_eq_iff_eq, @eq_comm _ key other]

theorem getElem?_erase (other : LocationSessionKey) :
    (sessions.erase key)[other]? = if other = key then none else sessions[other]? := by
  rw [Std.TreeMap.getElem?_erase]
  simp only [Std.LawfulEqCmp.compare_eq_iff_eq, @eq_comm _ key other]

theorem mem_others {interval : Nat} : interval ∈ sessions.intervals (only key) ↔
    ∃ other, ∃ options : LocationOptions, other ≠ key ∧ sessions[other]? = some options ∧
      options.minInterval = interval := by
  simp [intervals, only]

theorem intervals_insert : intervals (sessions.insert key options) nothing =
    insert options.minInterval (sessions.intervals (only key)) := by
  ext interval
  rw [Set.mem_insert_iff, mem_others]
  constructor
  · rintro ⟨other, held, _, live, rfl⟩
    rw [getElem?_insert] at live
    split at live
    · cases live
      exact .inl rfl
    · next different => exact .inr ⟨other, held, different, live, rfl⟩
  · rintro (rfl | ⟨other, held, different, live, rfl⟩)
    · exact ⟨key, options, rfl, by rw [getElem?_insert, if_pos rfl], rfl⟩
    · exact ⟨other, held, rfl, by rw [getElem?_insert, if_neg different, live], rfl⟩

theorem intervals_erase : intervals (sessions.erase key) nothing =
    sessions.intervals (only key) := by
  ext interval
  rw [mem_others]
  constructor
  · rintro ⟨other, held, _, live, rfl⟩
    rw [getElem?_erase] at live
    split at live
    · cases live
    · next different => exact ⟨other, held, different, live, rfl⟩
  · rintro ⟨other, held, different, live, rfl⟩
    exact ⟨other, held, rfl, by rw [getElem?_erase, if_neg different, live], rfl⟩

theorem intervals_live (live : sessions[key]? = some old) : sessions.intervals nothing =
    insert old.minInterval (sessions.intervals (only key)) := by
  ext interval
  rw [Set.mem_insert_iff, mem_others]
  constructor
  · rintro ⟨other, held, _, found, rfl⟩
    by_cases same : other = key
    · subst same
      cases live.symm.trans found
      exact .inl rfl
    · exact .inr ⟨other, held, same, found, rfl⟩
  · rintro (rfl | ⟨other, held, _, found, rfl⟩)
    · exact ⟨key, old, rfl, live, rfl⟩
    · exact ⟨other, held, rfl, found, rfl⟩

theorem intervals_absent (absent : sessions[key]? = none) : sessions.intervals nothing =
    sessions.intervals (only key) := by
  ext interval
  rw [mem_others]
  constructor
  · rintro ⟨other, held, _, found, rfl⟩
    refine ⟨other, held, ?_, found, rfl⟩
    rintro rfl
    exact absurd (absent.symm.trans found) (by simp)
  · rintro ⟨other, held, _, found, rfl⟩
    exact ⟨other, held, rfl, found, rfl⟩

theorem no_sessions_iff : sessions.isEmpty = true ↔ sessions.intervals nothing = ∅ := by
  rw [Std.TreeMap.isEmpty_iff_forall_not_mem, Set.eq_empty_iff_forall_notMem]
  constructor
  · rintro empty _ ⟨key, options, _, live, rfl⟩
    exact empty key (Std.TreeMap.mem_iff_isSome_getElem?.mpr (by rw [live]; rfl))
  · intro empty key member
    obtain ⟨options, live⟩ := Option.isSome_iff_exists.mp
      (Std.TreeMap.mem_iff_isSome_getElem?.mp member)
    exact empty options.minInterval ⟨key, options, rfl, live, rfl⟩

/-- The only session there is has no others beside it. -/
theorem no_others_of_size_one (live : sessions[key]? = some old) (one : sessions.size = 1) :
    sessions.intervals (only key) = ∅ := by
  rw [← intervals_erase, ← no_sessions_iff, Std.TreeMap.isEmpty_eq_size_eq_zero,
    Std.TreeMap.size_erase, one]
  have member : sessions.contains key = true := by
    rw [Std.TreeMap.contains_eq_isSome_getElem?, live]
    rfl
  simp [member]

theorem others_of_size (live : sessions[key]? = some old) (several : sessions.size ≠ 1) :
    sessions.intervals (only key) ≠ ∅ := by
  rw [← intervals_erase, ne_eq, ← no_sessions_iff, Std.TreeMap.isEmpty_eq_size_eq_zero,
    Std.TreeMap.size_erase]
  have member : sessions.contains key = true := by
    rw [Std.TreeMap.contains_eq_isSome_getElem?, live]
    rfl
  have filled : sessions.size ≠ 0 := by
    intro none_left
    have empty : sessions.isEmpty = true := by
      rw [Std.TreeMap.isEmpty_eq_size_eq_zero, none_left]
      rfl
    rw [Std.TreeMap.isEmpty_iff_forall_not_mem] at empty
    exact empty key (Std.TreeMap.mem_iff_contains.mpr member)
  simp only [member, if_true, beq_iff_eq]
  omega

/-- If there are sessions, what the search finds is the options of one. -/
theorem smallest_of_filled (sized : Sized sessions) (filled : ¬ sessions.isEmpty = true) :
    (∃ key, nothing key = false ∧ sessions[key]? = some (sessions.smallestIntervalOptions nothing)) ∧
      IsLeast (sessions.intervals nothing)
        (sessions.smallestIntervalOptions nothing).minInterval := by
  rcases smallest_spec sized nothing with ⟨-, empty⟩ | found
  · exact absurd (no_sessions_iff.mpr empty) filled
  · exact found

/-- Beside a session that is not the only one, what the search finds is the options of
another. -/
theorem smallest_of_several (sized : Sized sessions) (live : sessions[key]? = some old)
    (several : sessions.size ≠ 1) :
    (∃ other, only key other = false ∧
      sessions[other]? = some (sessions.smallestIntervalOptions (only key))) ∧
      IsLeast (sessions.intervals (only key))
        (sessions.smallestIntervalOptions (only key)).minInterval := by
  rcases smallest_spec sized (only key) with ⟨-, empty⟩ | found
  · exact absurd empty (others_of_size live several)
  · exact found

end Update

end LocationSessionMap
end Msm8917Common.Gnss
