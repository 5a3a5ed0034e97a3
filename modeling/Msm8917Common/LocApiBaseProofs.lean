import Msm8917Common.LocApiBase
import Msm8917Common.Runs

/-! The array of adapters is a list without repetitions from its first entry on, and
nothing behind it: a set that loses exactly what is removed, and that the loops see whole. -/
namespace Msm8917Common.LocApi
variable {Adapter : Type*}

/-- The array holds these adapters, from its first entry on. -/
structure LocApiBase.Holds (api : LocApiBase Adapter) (registered : List Adapter) : Prop where
  slots : api.mLocAdapters = fun i => registered[i]?
  fits : registered.length ≤ MAX_ADAPTERS
  nodup : registered.Nodup

theorem afterLast_eq {mLocAdapters : Nat → Option Adapter} {i last : Nat} (below : i ≤ last)
    (filled : ∀ k, i ≤ k → k < last → (mLocAdapters k).isSome)
    (inside : last ≤ MAX_ADAPTERS) (ends : mLocAdapters last = none) :
    afterLast mLocAdapters i = last := by
  rw [afterLast]
  by_cases here : i = last
  · subst here
    rw [if_neg]
    rintro ⟨_, some⟩
    rw [ends] at some
    cases some
  · have before : i < last := Nat.lt_of_le_of_ne below here
    rw [if_pos ⟨Nat.lt_of_lt_of_le before inside, filled i (Nat.le_refl i) before⟩]
    exact afterLast_eq before (fun k least => filled k (Nat.le_of_succ_le least)) inside ends
termination_by last - i

namespace LocApiBase
variable {api : LocApiBase Adapter} {registered before after : List Adapter} {adapter : Adapter}

theorem slot_of_holds (holds : api.Holds registered) (i : Nat) :
    api.mLocAdapters i = registered[i]? := congrFun holds.slots i

/-- Before the end of the list an entry is one of the list's. -/
theorem slot_before (holds : api.Holds registered) {k : Nat} (inside : k < registered.length) :
    ∃ adapter ∈ registered, api.mLocAdapters k = some adapter :=
  ⟨registered[k], List.getElem_mem inside,
    (slot_of_holds holds k).trans (List.getElem?_eq_getElem inside)⟩

theorem some_ne_of_absent (absent : adapter ∉ registered) :
    ∀ other ∈ registered, some adapter ≠ some other := by
  rintro other member ⟨⟩
  exact absent member

theorem toAllAdapters_of_holds (holds : api.Holds registered) : api.toAllAdapters = registered := by
  obtain ⟨room, full⟩ := Nat.exists_eq_add_of_le holds.fits
  have filled : (List.range registered.length).map api.mLocAdapters = registered.map some := by
    rw [holds.slots]
    exact List.ext_getElem (by simp) (by simp)
  have empty : (((List.range room).map (registered.length + ·)).map api.mLocAdapters).takeWhile
      Option.isSome = [] := by
    rw [holds.slots]
    cases room with
    | zero => rfl
    | succ room => simp [List.range_succ_eq_map]
  rw [toAllAdapters, full, List.range_add, List.map_append, filled,
    List.takeWhile_append_of_pos (by simp), empty, List.append_nil]
  simp [List.reduceOption]

/-! What the loops see -/

theorem members_getEvtMask (masks : Adapter → BitVec 64) (api : LocApiBase Adapter) :
    BitSets.members (api.getEvtMask masks) =
      (⋃ adapter ∈ api.toAllAdapters, BitSets.members (masks adapter)) \
        BitSets.members api.mExcludedMask := by
  rw [getEvtMask, BitSets.members_and_not,
    BitSets.members_foldl fun mask adapter => BitSets.members_or mask (masks adapter),
    BitSets.members_zero, Set.empty_union]

theorem isSome_to1stHandlingAdapter (call : Adapter → Bool) (api : LocApiBase Adapter) :
    (api.to1stHandlingAdapter call).isSome ↔ ∃ adapter ∈ api.toAllAdapters, call adapter :=
  List.find?_isSome

/-! `addAdapter` -/

variable [DecidableEq Adapter]

/-- The loop passes the entries that are neither null nor the adapter. -/
theorem addFrom_skip {wanted : Option Adapter} {i stop : Nat} (below : i ≤ stop)
    (inside : stop ≤ MAX_ADAPTERS)
    (others : ∀ k, i ≤ k → k < stop → api.mLocAdapters k ≠ none ∧ api.mLocAdapters k ≠ wanted) :
    api.addFrom wanted i = api.addFrom wanted stop := by
  by_cases here : i = stop
  · rw [here]
  · have early : i < stop := Nat.lt_of_le_of_ne below here
    obtain ⟨filled, other⟩ := others i (Nat.le_refl i) early
    rw [addFrom, if_pos ⟨Nat.lt_of_lt_of_le early inside, other⟩, if_neg filled]
    exact addFrom_skip early inside fun k least => others k (Nat.le_of_succ_le least)
termination_by stop - i

/-- An adapter that is not there is looked for up to the end of the list. -/
theorem addAdapter_of_absent {wanted : Option Adapter} (holds : api.Holds registered)
    (absent : ∀ adapter ∈ registered, wanted ≠ some adapter) :
    api.addAdapter wanted = api.addFrom wanted registered.length := by
  apply addFrom_skip (Nat.zero_le _) holds.fits
  intro k _ inside
  obtain ⟨adapter, member, here⟩ := slot_before holds inside
  rw [here]
  exact ⟨Option.some_ne_none adapter, (absent adapter member).symm⟩

theorem addAdapter_null (holds : api.Holds registered) : api.addAdapter none = (api, []) := by
  rw [addAdapter_of_absent holds fun _ _ => (Option.some_ne_none _).symm, addFrom, if_neg]
  rintro ⟨_, filled⟩
  exact filled ((slot_of_holds holds _).trans (List.getElem?_eq_none (Nat.le_refl _)))

theorem addAdapter_known (holds : api.Holds registered) (member : adapter ∈ registered) :
    api.addAdapter (some adapter) = (api, []) := by
  obtain ⟨before, after, cut, first⟩ := List.eq_append_cons_of_mem member
  have there : api.mLocAdapters before.length = some adapter := by
    rw [slot_of_holds holds, cut, List.getElem?_append_right (Nat.le_refl _), Nat.sub_self]
    rfl
  have inside : before.length ≤ MAX_ADAPTERS := by
    apply Nat.le_trans _ holds.fits
    rw [cut, List.length_append]
    exact Nat.le_add_right _ _
  rw [addAdapter, addFrom_skip (Nat.zero_le _) inside]
  · rw [addFrom, if_neg]
    exact fun other => other.2 there
  · intro k _ early
    rw [slot_of_holds holds, cut, List.getElem?_append_left early,
      List.getElem?_eq_getElem early]
    refine ⟨Option.some_ne_none _, fun same => first ?_⟩
    rw [← Option.some.inj same]
    exact List.getElem_mem early

theorem addAdapter_full (holds : api.Holds registered) (absent : adapter ∉ registered)
    (full : registered.length = MAX_ADAPTERS) : api.addAdapter (some adapter) = (api, []) := by
  rw [addAdapter_of_absent holds (some_ne_of_absent absent),
    addFrom, if_neg]
  exact fun inside => absurd inside.1 (by omega)

theorem addAdapter_new (holds : api.Holds registered) (absent : adapter ∉ registered)
    (room : registered.length < MAX_ADAPTERS) :
    (api.addAdapter (some adapter)).1.Holds (registered ++ [adapter]) := by
  have free : api.mLocAdapters registered.length = none :=
    (slot_of_holds holds _).trans (List.getElem?_eq_none (Nat.le_refl _))
  rw [addAdapter_of_absent holds (some_ne_of_absent absent),
    addFrom, if_pos ⟨room, by rw [free]; exact (Option.some_ne_none adapter).symm⟩, if_pos free]
  refine ⟨?_, ?_, ?_⟩
  · funext k
    simp only [holds.slots, List.getElem?_append, Function.update_apply]
    rcases Nat.lt_trichotomy k registered.length with early | here | late
    · rw [if_neg (Nat.ne_of_lt early), if_pos early]
    · simp [here]
    · rw [if_neg (Nat.ne_of_gt late), if_neg (Nat.not_lt.mpr (Nat.le_of_lt late)),
        List.getElem?_eq_none (Nat.le_of_lt late), List.getElem?_eq_none (by simp; omega)]
  · rw [List.length_append]
    exact room
  · exact List.nodup_append.mpr ⟨holds.nodup, List.nodup_singleton _, by grind⟩

/-! `removeAdapter` -/

theorem removeFrom_skip {wanted : Option Adapter} {i stop : Nat} (below : i ≤ stop)
    (inside : stop ≤ MAX_ADAPTERS)
    (others : ∀ k, i ≤ k → k < stop → api.mLocAdapters k ≠ none ∧ api.mLocAdapters k ≠ wanted) :
    api.removeFrom wanted i = api.removeFrom wanted stop := by
  by_cases here : i = stop
  · rw [here]
  · have early : i < stop := Nat.lt_of_le_of_ne below here
    obtain ⟨filled, other⟩ := others i (Nat.le_refl i) early
    rw [removeFrom, if_pos ⟨Nat.lt_of_lt_of_le early inside, Option.isSome_iff_ne_none.mpr filled⟩,
      if_neg other]
    exact removeFrom_skip early inside fun k least => others k (Nat.le_of_succ_le least)
termination_by stop - i

/-- The loop ends at a null entry and at the end of the array. -/
theorem removeFrom_end {wanted : Option Adapter} {i : Nat}
    (ends : i < MAX_ADAPTERS → api.mLocAdapters i = none) :
    api.removeFrom wanted i = (api, []) := by
  rw [removeFrom, if_neg]
  rintro ⟨inside, filled⟩
  rw [ends inside] at filled
  cases filled

theorem removeAdapter_of_absent {wanted : Option Adapter} (holds : api.Holds registered)
    (absent : ∀ adapter ∈ registered, wanted ≠ some adapter) :
    api.removeAdapter wanted = (api, []) := by
  rw [removeAdapter, removeFrom_skip (Nat.zero_le _) holds.fits, removeFrom_end]
  · exact fun _ => (slot_of_holds holds _).trans (List.getElem?_eq_none (Nat.le_refl _))
  · intro k _ inside
    obtain ⟨adapter, member, here⟩ := slot_before holds inside
    rw [here]
    exact ⟨Option.some_ne_none adapter, (absent adapter member).symm⟩

/-- The last adapter goes where the removed one was. -/
theorem removeAdapter_of_mem (holds : api.Holds registered)
    (cut : registered = before ++ adapter :: after) (first : adapter ∉ before) :
    api.removeAdapter (some adapter) =
      ({ api with
          mLocAdapters := fun k =>
            if k = before.length + after.length then none
            else if k = before.length then registered[before.length + after.length]?
            else registered[k]? },
        [if before.length + after.length = 0 then .close else .locOpenMsg]) := by
  have length : registered.length = before.length + after.length + 1 := by
    rw [cut, List.length_append, List.length_cons]
    rfl
  have fits := holds.fits
  have there : api.mLocAdapters before.length = some adapter := by
    rw [slot_of_holds holds, cut, List.getElem?_append_right (Nat.le_refl _), Nat.sub_self]
    rfl
  have beyond : afterLast (Function.update api.mLocAdapters before.length none)
      (before.length + 1) = registered.length := by
    apply afterLast_eq (by omega) _ fits
    · rw [Function.update_of_ne (by omega), slot_of_holds holds]
      exact List.getElem?_eq_none (Nat.le_refl _)
    · intro k least early
      rw [Function.update_of_ne (by omega), slot_of_holds holds, List.getElem?_eq_getElem early]
      rfl
  have last : registered.length - 1 = before.length + after.length := by omega
  rw [removeAdapter, removeFrom_skip (Nat.zero_le _) (by omega : before.length ≤ MAX_ADAPTERS)]
  · rw [removeFrom, if_pos ⟨by omega, by rw [there]; rfl⟩, if_pos there]
    simp only [beyond, last]
    rw [removeFrom_end]
    · simp only [holds.slots]
      congr
      funext k
      simp only [Function.update_apply]
      grind
    · intro _
      simp only [holds.slots, Function.update_apply]
      grind
  · intro k _ early
    rw [slot_of_holds holds, cut, List.getElem?_append_left early,
      List.getElem?_eq_getElem early]
    refine ⟨Option.some_ne_none _, fun same => first ?_⟩
    rw [← Option.some.inj same]
    exact List.getElem_mem early

theorem holds_removed_last (holds : api.Holds (before ++ [adapter])) :
    (api.removeAdapter (some adapter)).1.Holds before := by
  have distinct := List.nodup_append.mp holds.nodup
  have first : adapter ∉ before := fun member =>
    distinct.2.2 adapter member adapter (List.mem_singleton_self _) rfl
  rw [removeAdapter_of_mem holds rfl first]
  refine ⟨?_, Nat.le_of_succ_le (by simpa using holds.fits), distinct.1⟩
  funext k
  grind

theorem holds_removed_before {between : List Adapter} {last : Adapter}
    (holds : api.Holds (before ++ adapter :: (between ++ [last]))) :
    (api.removeAdapter (some adapter)).1.Holds (before ++ last :: between) := by
  have distinct := List.nodup_append.mp holds.nodup
  have first : adapter ∉ before := fun member =>
    distinct.2.2 adapter member adapter List.mem_cons_self rfl
  rw [removeAdapter_of_mem holds rfl first]
  refine ⟨?_, ?_, ?_⟩
  · funext k
    grind
  · have fits := holds.fits
    simp only [List.length_append, List.length_cons, List.length_nil] at fits ⊢
    omega
  · grind

/-- A removal leaves an array that holds all others, and only them. -/
theorem holds_removeAdapter (holds : api.Holds registered) (member : adapter ∈ registered) :
    ∃ rest, (api.removeAdapter (some adapter)).1.Holds rest ∧
      ∀ other, other ∈ rest ↔ other ≠ adapter ∧ other ∈ registered := by
  obtain ⟨before, after, rfl, first⟩ := List.eq_append_cons_of_mem member
  have distinct := holds.nodup
  rcases after.eq_nil_or_concat' with rfl | ⟨between, last, rfl⟩
  · exact ⟨before, holds_removed_last holds, by grind⟩
  · exact ⟨before ++ last :: between, holds_removed_before holds, by grind⟩

/-! Runs of calls -/

/-- The array holds a list of the adapters of the set. -/
def Represents (api : LocApiBase Adapter) (registered : Finset Adapter) : Prop :=
  ∃ adapters, api.Holds adapters ∧ adapters.toFinset = registered

theorem represents_step {registered : Finset Adapter} (represents : api.Represents registered)
    (call : Call Adapter) : (api.step call).Represents (register registered call) := by
  obtain ⟨adapters, holds, rfl⟩ := represents
  have card : adapters.toFinset.card = adapters.length :=
    List.toFinset_card_of_nodup holds.nodup
  cases call with
  | addAdapter wanted =>
    cases wanted with
    | none =>
      rw [step, addAdapter_null holds]
      exact ⟨adapters, holds, rfl⟩
    | some adapter =>
      by_cases member : adapter ∈ adapters
      · rw [step, addAdapter_known holds member, register,
          Finset.insert_eq_of_mem (List.mem_toFinset.mpr member), ite_self]
        exact ⟨adapters, holds, rfl⟩
      · by_cases room : adapters.length < MAX_ADAPTERS
        · rw [register, card, if_pos room]
          refine ⟨adapters ++ [adapter], addAdapter_new holds member room, ?_⟩
          ext other
          simp
        · have full := Nat.le_antisymm holds.fits (Nat.not_lt.mp room)
          rw [register, card, if_neg room, step, addAdapter_full holds member full]
          exact ⟨adapters, holds, rfl⟩
  | removeAdapter wanted =>
    cases wanted with
    | none =>
      rw [step, removeAdapter_of_absent holds fun _ _ => (Option.some_ne_none _).symm]
      exact ⟨adapters, holds, rfl⟩
    | some adapter =>
      by_cases member : adapter ∈ adapters
      · obtain ⟨rest, left, members⟩ := holds_removeAdapter holds member
        refine ⟨rest, left, ?_⟩
        ext other
        simp [register, members]
      · rw [step, removeAdapter_of_absent holds (some_ne_of_absent member), register,
          Finset.erase_eq_of_notMem (by simpa using member)]
        exact ⟨adapters, holds, rfl⟩

theorem mExcludedMask_addFrom (wanted : Option Adapter) (i : Nat) (api : LocApiBase Adapter) :
    (api.addFrom wanted i).1.mExcludedMask = api.mExcludedMask := by
  fun_induction addFrom wanted i api with
  | case1 => rfl
  | case2 i _ _ ih => exact ih
  | case3 => rfl

theorem mExcludedMask_removeFrom (wanted : Option Adapter) (i : Nat) (api : LocApiBase Adapter) :
    (api.removeFrom wanted i).1.mExcludedMask = api.mExcludedMask := by
  fun_induction removeFrom wanted i api with
  | case1 i api _ _ _ _ _ _ _ left effects called ih => rwa [called] at ih
  | case2 i api _ _ ih => exact ih
  | case3 => rfl

theorem mExcludedMask_step (api : LocApiBase Adapter) (call : Call Adapter) :
    (api.step call).mExcludedMask = api.mExcludedMask := by
  cases call with
  | addAdapter wanted => exact mExcludedMask_addFrom wanted 0 api
  | removeAdapter wanted => exact mExcludedMask_removeFrom wanted 0 api

theorem mExcludedMask_run (calls : List (Call Adapter)) (api : LocApiBase Adapter) :
    (calls.foldl step api).mExcludedMask = api.mExcludedMask :=
  @Runs.invariant_reachable _ _ step (·.mExcludedMask = api.mExcludedMask)
    (fun before call held => (mExcludedMask_step before call).trans held) api _ rfl ⟨calls, rfl⟩

theorem represents_run (calls : List (Call Adapter)) {api : LocApiBase Adapter}
    {registered : Finset Adapter} (start : api.Represents registered) :
    (calls.foldl step api).Represents (calls.foldl register registered) := by
  induction calls generalizing api registered with
  | nil => exact start
  | cons call rest ih => exact ih (represents_step start call)

/-- After any calls the array has no gap before an adapter and none of them twice, it has
those that the calls registered, and the loops come to each of these. -/
theorem the_adapters_are_a_gap_free_set (excludedMask : BitVec 64) (calls : List (Call Adapter)) :
    let api := calls.foldl step (new excludedMask)
    let registered := calls.foldl register ∅
    (∀ i j, i < j → j < MAX_ADAPTERS → api.mLocAdapters j ≠ none → api.mLocAdapters i ≠ none) ∧
    (∀ i j, i < MAX_ADAPTERS → j < MAX_ADAPTERS → api.mLocAdapters i ≠ none →
      api.mLocAdapters i = api.mLocAdapters j → i = j) ∧
    (∀ adapter, (∃ i < MAX_ADAPTERS, api.mLocAdapters i = some adapter) ↔ adapter ∈ registered) ∧
    (api.toAllAdapters.Nodup ∧ ∀ adapter, adapter ∈ api.toAllAdapters ↔ adapter ∈ registered) ∧
    (∀ call, (api.to1stHandlingAdapter call).isSome ↔ ∃ adapter ∈ registered, call adapter) ∧
    ∀ masks, BitSets.members (api.getEvtMask masks) =
      (⋃ adapter ∈ registered, BitSets.members (masks adapter)) \
        BitSets.members excludedMask := by
  intro api registered
  have start : (new excludedMask : LocApiBase Adapter).Represents ∅ :=
    ⟨[], ⟨rfl, Nat.zero_le _, List.nodup_nil⟩, rfl⟩
  obtain ⟨adapters, holds, members⟩ := represents_run calls start
  have excluded : api.mExcludedMask = excludedMask := mExcludedMask_run calls (new excludedMask)
  have member (adapter : Adapter) : adapter ∈ registered ↔ adapter ∈ adapters := by
    rw [← List.mem_toFinset, members]
  have seen : api.toAllAdapters = adapters := toAllAdapters_of_holds holds
  have slot (i : Nat) : api.mLocAdapters i = adapters[i]? := slot_of_holds holds i
  have filled (i : Nat) : api.mLocAdapters i ≠ none ↔ i < adapters.length := by
    rw [slot, Ne, List.getElem?_eq_none_iff, Nat.not_le]
  refine ⟨?_, ?_, ?_, ?_, ?_, ?_⟩
  · intro i j earlier _
    rw [filled, filled]
    exact Nat.lt_trans earlier
  · intro i j _ _ here same
    rw [slot, slot] at same
    exact (List.getElem?_inj ((filled i).mp here) holds.nodup).mp same
  · intro adapter
    rw [member, List.mem_iff_getElem?]
    constructor
    · rintro ⟨i, _, here⟩
      exact ⟨i, (slot i).symm.trans here⟩
    · rintro ⟨i, here⟩
      have inside := (List.getElem?_eq_some_iff.mp here).1
      exact ⟨i, Nat.lt_of_lt_of_le inside holds.fits, (slot i).trans here⟩
  · rw [seen]
    exact ⟨holds.nodup, fun adapter => (member adapter).symm⟩
  · intro call
    rw [isSome_to1stHandlingAdapter, seen]
    simp only [member]
  · intro masks
    rw [members_getEvtMask, seen, excluded]
    simp only [member]

end LocApiBase
end Msm8917Common.LocApi
