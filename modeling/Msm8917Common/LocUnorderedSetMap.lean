import Mathlib.Data.List.AList
import Msm8917Common.UnorderedSet

/-! `LocUnorderedSetMap.h`: a map from keys to sets of values, edited by set
operations that report what they removed. Out-parameters are results here; a
caller that passes `nullptr` drops the result. -/
namespace Msm8917Common

/-- One turn of the loop of `trimSet`. -/
def trimStep [DecidableEq α] (sets : UnorderedSet α × UnorderedSet α) (val : α) :
    UnorderedSet α × UnorderedSet α :=
  if val ∈ sets.1 then (sets.1.erase val, sets.2.insert val) else sets

/-- `trimSet`: the set without `rVals`, and `goneVals` with what was removed. -/
def trimSet [DecidableEq α] (fromSet rVals goneVals : UnorderedSet α) :
    UnorderedSet α × UnorderedSet α :=
  rVals.elems.foldl trimStep (fromSet, goneVals)

/-- One turn of the loop of `removeAndReturnInterset`, on `common`, `s1` and
`s2`: the loop erases the element it stands on and goes on to the next. -/
def intersetStep [DecidableEq α] (sets : UnorderedSet α × UnorderedSet α × UnorderedSet α) (b : α) :
    UnorderedSet α × UnorderedSet α × UnorderedSet α :=
  if b ∈ sets.2.1 then (sets.1.insert b, sets.2.1.erase b, sets.2.2.erase b) else sets

/-- `removeAndReturnInterset`: the common elements, and both sets without them. -/
def removeAndReturnInterset [DecidableEq α] (s1 s2 : UnorderedSet α) :
    UnorderedSet α × UnorderedSet α × UnorderedSet α :=
  s2.elems.foldl intersetStep (.empty, s1, s2)

section SetLoops
variable [DecidableEq α] {value : α}

private theorem mem_trimStep {sets : UnorderedSet α × UnorderedSet α} {val : α} :
    (value ∈ (trimStep sets val).1 ↔ value ≠ val ∧ value ∈ sets.1) ∧
    (value ∈ (trimStep sets val).2 ↔ value ∈ sets.2 ∨ value = val ∧ value ∈ sets.1) := by
  unfold trimStep
  split
  · simp only [UnorderedSet.mem_erase, UnorderedSet.mem_insert, true_and]
    grind
  · grind

private theorem mem_trimFold (rVals : List α) (sets : UnorderedSet α × UnorderedSet α) :
    (value ∈ (rVals.foldl trimStep sets).1 ↔ value ∈ sets.1 ∧ value ∉ rVals) ∧
    (value ∈ (rVals.foldl trimStep sets).2 ↔ value ∈ sets.2 ∨ value ∈ sets.1 ∧ value ∈ rVals) := by
  induction rVals generalizing sets with
  | nil => simp
  | cons head rest ih =>
    simp only [List.foldl_cons, ih, mem_trimStep, List.mem_cons]
    grind

theorem mem_trimSet {fromSet rVals goneVals : UnorderedSet α} :
    value ∈ (trimSet fromSet rVals goneVals).1 ↔ value ∈ fromSet ∧ value ∉ rVals :=
  (mem_trimFold rVals.elems (fromSet, goneVals)).1

theorem mem_trimSet_gone {fromSet rVals goneVals : UnorderedSet α} :
    value ∈ (trimSet fromSet rVals goneVals).2 ↔
      value ∈ goneVals ∨ value ∈ fromSet ∧ value ∈ rVals :=
  (mem_trimFold rVals.elems (fromSet, goneVals)).2

private theorem mem_intersetStep {sets : UnorderedSet α × UnorderedSet α × UnorderedSet α} {b : α} :
    (value ∈ (intersetStep sets b).1 ↔ value ∈ sets.1 ∨ value = b ∧ value ∈ sets.2.1) ∧
    (value ∈ (intersetStep sets b).2.1 ↔ value ≠ b ∧ value ∈ sets.2.1) ∧
    (value ∈ (intersetStep sets b).2.2 ↔ value ∈ sets.2.2 ∧ ¬ (value = b ∧ value ∈ sets.2.1)) := by
  unfold intersetStep
  split
  · simp only [UnorderedSet.mem_erase, UnorderedSet.mem_insert, true_and]
    grind
  · grind

private theorem mem_intersetFold (bs : List α)
    (sets : UnorderedSet α × UnorderedSet α × UnorderedSet α) (value : α) :
    (value ∈ (bs.foldl intersetStep sets).1 ↔ value ∈ sets.1 ∨ value ∈ sets.2.1 ∧ value ∈ bs) ∧
    (value ∈ (bs.foldl intersetStep sets).2.2 ↔
      value ∈ sets.2.2 ∧ ¬ (value ∈ sets.2.1 ∧ value ∈ bs)) := by
  induction bs generalizing sets with
  | nil => simp
  | cons head rest ih =>
    simp only [List.foldl_cons, ih, mem_intersetStep, List.mem_cons]
    grind

/-- The returned set is the intersection, whatever the order of the loop. -/
theorem mem_interset_common {s1 s2 : UnorderedSet α} :
    value ∈ (removeAndReturnInterset s1 s2).1 ↔ value ∈ s1 ∧ value ∈ s2 := by
  have fold := (mem_intersetFold s2.elems (.empty, s1, s2) value).1
  simp only [UnorderedSet.not_mem_empty, false_or] at fold
  exact fold

/-- The second argument keeps exactly what the first one did not have. -/
theorem mem_interset_second {s1 s2 : UnorderedSet α} :
    value ∈ (removeAndReturnInterset s1 s2).2.2 ↔ value ∈ s2 ∧ value ∉ s1 := by
  have fold := (mem_intersetFold s2.elems (.empty, s1, s2) value).2
  rw [removeAndReturnInterset, fold, ← UnorderedSet.mem_def]
  grind

end SetLoops

/-- `LocUnorderedSetMap<KEY, VAL>`. -/
structure LocUnorderedSetMap (κ ν : Type*) where
  mMap : AList fun _ : κ => UnorderedSet ν

namespace LocUnorderedSetMap
section Entries
variable [DecidableEq κ]

def new : LocUnorderedSetMap κ ν := ⟨∅⟩

def isEmpty (map : LocUnorderedSetMap κ ν) : Bool := map.mMap.entries.isEmpty

def getValSetPtr (map : LocUnorderedSetMap κ ν) (key : κ) : Option (UnorderedSet ν) :=
  map.mMap.lookup key

def getValSet (map : LocUnorderedSetMap κ ν) (key : κ) : UnorderedSet ν :=
  (map.mMap.lookup key).getD .empty

def getKeys (map : LocUnorderedSetMap κ ν) : UnorderedSet κ :=
  UnorderedSet.ofList map.mMap.keys

def remove (map : LocUnorderedSetMap κ ν) (key : κ) : LocUnorderedSetMap κ ν × Bool :=
  (⟨map.mMap.erase key⟩, (map.mMap.lookup key).isSome)

/-- The value is in the set that the key maps to. -/
def Holds (map : LocUnorderedSetMap κ ν) (key : κ) (value : ν) : Prop := value ∈ map.getValSet key

instance [DecidableEq ν] (map : LocUnorderedSetMap κ ν) (key : κ) (value : ν) :
    Decidable (map.Holds key value) :=
  inferInstanceAs (Decidable (value ∈ map.getValSet key))

/-- No entry has an empty set. -/
def NoEmptyEntry (map : LocUnorderedSetMap κ ν) : Prop :=
  ∀ key vals, map.mMap.lookup key = some vals → vals.isEmpty = false

theorem not_holds_new (key : κ) (value : ν) : ¬ (new : LocUnorderedSetMap κ ν).Holds key value := by
  simp [Holds, getValSet, new]

theorem noEmptyEntry_new : (new : LocUnorderedSetMap κ ν).NoEmptyEntry := by
  intro key vals lookup
  simp [new] at lookup

theorem holds_of_lookup {map : LocUnorderedSetMap κ ν} {vals : UnorderedSet ν}
    (lookup : map.mMap.lookup key = some vals) (value : ν) :
    map.Holds key value ↔ value ∈ vals := by
  simp [Holds, getValSet, lookup]

theorem not_holds_of_lookup {map : LocUnorderedSetMap κ ν}
    (lookup : map.mMap.lookup key = none) (value : ν) : ¬ map.Holds key value := by
  simp [Holds, getValSet, lookup]

/-- Without empty entries, the keys are those that hold something. -/
theorem NoEmptyEntry.isSome_iff {map : LocUnorderedSetMap κ ν} (full : map.NoEmptyEntry)
    (key : κ) : (map.mMap.lookup key).isSome ↔ ∃ value, map.Holds key value := by
  cases lookup : map.mMap.lookup key with
  | none =>
    simp only [Option.isSome_none, Bool.false_eq_true, false_iff, not_exists]
    exact not_holds_of_lookup lookup
  | some vals =>
    simp only [Option.isSome_some, true_iff, holds_of_lookup lookup]
    exact UnorderedSet.isEmpty_false_iff.mp (full key vals lookup)

theorem NoEmptyEntry.mem_getKeys {map : LocUnorderedSetMap κ ν} (full : map.NoEmptyEntry)
    {key : κ} : key ∈ map.getKeys ↔ ∃ value, map.Holds key value := by
  rw [← full.isSome_iff, getKeys, UnorderedSet.mem_ofList, AList.lookup_isSome]
  rfl

theorem isEmpty_iff {map : LocUnorderedSetMap κ ν} :
    map.isEmpty = true ↔ ∀ key, key ∉ map.getKeys := by
  simp only [isEmpty, List.isEmpty_iff, getKeys, UnorderedSet.mem_ofList, AList.keys, List.keys]
  rw [← List.eq_nil_iff_forall_not_mem, List.map_eq_nil_iff]

theorem holds_insert (map : LocUnorderedSetMap κ ν) (key probe : κ) (vals : UnorderedSet ν)
    (value : ν) : Holds ⟨map.mMap.insert key vals⟩ probe value ↔
      if probe = key then value ∈ vals else map.Holds probe value := by
  by_cases same : probe = key
  · subst same
    simp [Holds, getValSet, AList.lookup_insert]
  · simp [Holds, getValSet, AList.lookup_insert_ne same, same]

theorem holds_erase (map : LocUnorderedSetMap κ ν) (key probe : κ) (value : ν) :
    Holds ⟨map.mMap.erase key⟩ probe value ↔ probe ≠ key ∧ map.Holds probe value := by
  by_cases same : probe = key
  · subst same
    simp [Holds, getValSet, AList.lookup_erase]
  · simp [Holds, getValSet, AList.lookup_erase_ne same, same]

theorem noEmptyEntry_insert {map : LocUnorderedSetMap κ ν} (full : map.NoEmptyEntry)
    {vals : UnorderedSet ν} (nonempty : vals.isEmpty = false) (key : κ) :
    NoEmptyEntry ⟨map.mMap.insert key vals⟩ := by
  intro probe found lookup
  by_cases same : probe = key
  · subst same
    rw [AList.lookup_insert] at lookup
    cases lookup
    exact nonempty
  · rw [AList.lookup_insert_ne same] at lookup
    exact full probe found lookup

theorem noEmptyEntry_erase {map : LocUnorderedSetMap κ ν} (full : map.NoEmptyEntry) (key : κ) :
    NoEmptyEntry ⟨map.mMap.erase key⟩ := by
  intro probe found lookup
  by_cases same : probe = key
  · subst same
    rw [AList.lookup_erase] at lookup
    cases lookup
  · rw [AList.lookup_erase_ne same] at lookup
    exact full probe found lookup

theorem remove_holds {map : LocUnorderedSetMap κ ν} {value : ν} :
    (map.remove key).1.Holds probe value ↔ probe ≠ key ∧ map.Holds probe value :=
  holds_erase map key probe value

theorem remove_full {map : LocUnorderedSetMap κ ν} (full : map.NoEmptyEntry) :
    (map.remove key).1.NoEmptyEntry :=
  noEmptyEntry_erase full key

end Entries

variable [DecidableEq κ] [DecidableEq ν]

/-- The private `trimOrRemove`, on an entry that was found: `vals` is what the
entry holds. Returns whether the entry was removed. -/
def trimOrRemoveEntry (map : LocUnorderedSetMap κ ν) (key : κ) (vals rVals goneVals : UnorderedSet ν) :
    LocUnorderedSetMap κ ν × Bool × UnorderedSet ν :=
  let (vals, goneVals) := trimSet vals rVals goneVals
  if vals.isEmpty then (⟨map.mMap.erase key⟩, true, goneVals)
  else (⟨map.mMap.insert key vals⟩, false, goneVals)

/-- One turn of the loop of the public `trimOrRemove`. -/
def trimOrRemoveKey (rVals : UnorderedSet ν)
    (state : LocUnorderedSetMap κ ν × UnorderedSet κ × UnorderedSet ν) (key : κ) :
    LocUnorderedSetMap κ ν × UnorderedSet κ × UnorderedSet ν :=
  match state.1.mMap.lookup key with
  | none => state
  | some vals =>
    let (map, removed, goneVals) := state.1.trimOrRemoveEntry key vals rVals state.2.2
    (map, if removed then state.2.1.insert key else state.2.1, goneVals)

/-- `trimOrRemove`: every entry keyed by `keys` loses `rVals`. The caller's
`goneKeys` and `goneVals` are filled further. -/
def trimOrRemove (map : LocUnorderedSetMap κ ν) (keys : UnorderedSet κ)
    (rVals : UnorderedSet ν) (goneKeys : UnorderedSet κ) (goneVals : UnorderedSet ν) :
    LocUnorderedSetMap κ ν × UnorderedSet κ × UnorderedSet ν :=
  keys.elems.foldl (trimOrRemoveKey rVals) (map, goneKeys, goneVals)

/-- `add` for one key. Returns whether a new entry was made. -/
def add (map : LocUnorderedSetMap κ ν) (key : κ) (newVals : UnorderedSet ν) :
    LocUnorderedSetMap κ ν × Bool :=
  if newVals.isEmpty then (map, false)
  else match map.mMap.lookup key with
    | some vals => (⟨map.mMap.insert key (vals.insertAll newVals.elems)⟩, false)
    | none => (⟨map.mMap.insert key newVals⟩, true)

/-- One turn of the loop of `add` for a set of keys. -/
def addKey (newVals : UnorderedSet ν) (state : LocUnorderedSetMap κ ν × UnorderedSet κ) (key : κ) :
    LocUnorderedSetMap κ ν × UnorderedSet κ :=
  let (map, added) := state.1.add key newVals
  (map, if added then state.2.insert key else state.2)

/-- `add` for a set of keys. The caller's `newKeys` is filled further. -/
def addKeys (map : LocUnorderedSetMap κ ν) (keys : UnorderedSet κ) (newVals : UnorderedSet ν)
    (newKeys : UnorderedSet κ) : LocUnorderedSetMap κ ν × UnorderedSet κ :=
  keys.elems.foldl (addKey newVals) (map, newKeys)

/-- `update`: the map, the returned `goneVals`, and `newVals` as it is left.
`mMap[key]` of an absent key is an empty set. -/
def update (map : LocUnorderedSetMap κ ν) (key : κ) (newVals : UnorderedSet ν) :
    LocUnorderedSetMap κ ν × UnorderedSet ν × UnorderedSet ν :=
  if newVals.isEmpty then (⟨map.mMap.erase key⟩, .empty, newVals)
  else
    let (goneVals, _, leftVals) := removeAndReturnInterset (map.getValSet key) newVals
    (⟨map.mMap.insert key newVals⟩, goneVals, leftVals)

/-! What each operation does to the relation between keys and values, and that
none of them leaves an entry with an empty set. -/

variable {map : LocUnorderedSetMap κ ν} {keys : UnorderedSet κ} {rVals newVals : UnorderedSet ν}
  {goneKeys newKeys : UnorderedSet κ} {goneVals : UnorderedSet ν} {key probe : κ} {value : ν}

private theorem entry_holds (lookup : map.mMap.lookup key = some vals) :
    (map.trimOrRemoveEntry key vals rVals goneVals).1.Holds probe value ↔
      map.Holds probe value ∧ ¬ (probe = key ∧ value ∈ rVals) := by
  have held := holds_of_lookup lookup value
  unfold trimOrRemoveEntry
  simp only
  split
  · rename_i drained
    have none_left := UnorderedSet.isEmpty_iff.mp drained value
    rw [mem_trimSet] at none_left
    rw [holds_erase]
    grind
  · rw [holds_insert, mem_trimSet]
    grind

private theorem entry_gone (lookup : map.mMap.lookup key = some vals) :
    value ∈ (map.trimOrRemoveEntry key vals rVals goneVals).2.2 ↔
      value ∈ goneVals ∨ map.Holds key value ∧ value ∈ rVals := by
  rw [holds_of_lookup lookup, ← mem_trimSet_gone]
  unfold trimOrRemoveEntry
  simp only
  split <;> rfl

private theorem entry_full (full : map.NoEmptyEntry) :
    (map.trimOrRemoveEntry key vals rVals goneVals).1.NoEmptyEntry := by
  unfold trimOrRemoveEntry
  simp only
  split
  · exact noEmptyEntry_erase full key
  · rename_i left
    exact noEmptyEntry_insert full (by simpa using left) key

private theorem trimOrRemoveKey_exact (rVals : UnorderedSet ν) (key : κ) (value : ν)
    (state : LocUnorderedSetMap κ ν × UnorderedSet κ × UnorderedSet ν) :
    (∀ probe, (trimOrRemoveKey rVals state key).1.Holds probe value ↔
      state.1.Holds probe value ∧ ¬ (probe = key ∧ value ∈ rVals)) ∧
    (value ∈ (trimOrRemoveKey rVals state key).2.2 ↔
      value ∈ state.2.2 ∨ state.1.Holds key value ∧ value ∈ rVals) := by
  unfold trimOrRemoveKey
  split
  · rename_i lookup
    have absent := not_holds_of_lookup lookup value
    grind
  · rename_i vals lookup
    exact ⟨fun _ => entry_holds lookup, entry_gone lookup⟩

private theorem trimOrRemove_fold (keys : List κ)
    (state : LocUnorderedSetMap κ ν × UnorderedSet κ × UnorderedSet ν) :
    (∀ probe, (keys.foldl (trimOrRemoveKey rVals) state).1.Holds probe value ↔
      state.1.Holds probe value ∧ ¬ (probe ∈ keys ∧ value ∈ rVals)) ∧
    (value ∈ (keys.foldl (trimOrRemoveKey rVals) state).2.2 ↔
      value ∈ state.2.2 ∨ value ∈ rVals ∧ ∃ key ∈ keys, state.1.Holds key value) := by
  induction keys generalizing state with
  | nil => simp
  | cons head rest ih =>
    obtain ⟨kept, gone⟩ := trimOrRemoveKey_exact rVals head value state
    obtain ⟨laterKept, laterGone⟩ := ih (trimOrRemoveKey rVals state head)
    rw [List.foldl_cons]
    refine ⟨fun probe => ?_, ?_⟩
    · rw [laterKept, kept]
      grind
    · rw [laterGone, gone]
      simp only [kept, List.mem_cons, exists_eq_or_imp]
      grind

/-- Exactly the given values go, from exactly the given keys. -/
theorem trimOrRemove_holds : (map.trimOrRemove keys rVals goneKeys goneVals).1.Holds probe value ↔
    map.Holds probe value ∧ ¬ (probe ∈ keys ∧ value ∈ rVals) :=
  (trimOrRemove_fold keys.elems (map, goneKeys, goneVals)).1 probe

/-- The reported values are those that some given key held. -/
theorem trimOrRemove_gone : value ∈ (map.trimOrRemove keys rVals goneKeys goneVals).2.2 ↔
    value ∈ goneVals ∨ value ∈ rVals ∧ ∃ key ∈ keys, map.Holds key value :=
  (trimOrRemove_fold keys.elems (map, goneKeys, goneVals)).2

private theorem entry_removed (lookup : map.mMap.lookup key = some vals) :
    (map.trimOrRemoveEntry key vals rVals goneVals).2.1 = true ↔
      ∀ value, map.Holds key value → value ∈ rVals := by
  simp only [holds_of_lookup lookup]
  unfold trimOrRemoveEntry
  simp only
  split
  · next drained =>
    simp only [true_iff]
    intro value held
    by_contra left
    exact UnorderedSet.isEmpty_iff.mp drained value (mem_trimSet.mpr ⟨held, left⟩)
  · next left =>
    simp only [Bool.false_eq_true, false_iff]
    intro all
    refine left (UnorderedSet.isEmpty_iff.mpr fun value kept => ?_)
    obtain ⟨held, spared⟩ := mem_trimSet.mp kept
    exact spared (all value held)

private theorem trimOrRemoveKey_full (key : κ)
    (state : LocUnorderedSetMap κ ν × UnorderedSet κ × UnorderedSet ν)
    (full : state.1.NoEmptyEntry) : (trimOrRemoveKey rVals state key).1.NoEmptyEntry := by
  unfold trimOrRemoveKey
  split
  · exact full
  · exact entry_full full

private theorem trimOrRemoveKey_goneKeys (key : κ)
    (state : LocUnorderedSetMap κ ν × UnorderedSet κ × UnorderedSet ν)
    (full : state.1.NoEmptyEntry) :
    probe ∈ (trimOrRemoveKey rVals state key).2.1 ↔ probe ∈ state.2.1 ∨
      probe = key ∧ (∃ value, state.1.Holds probe value) ∧
        ∀ value, state.1.Holds probe value → value ∈ rVals := by
  rw [← full.isSome_iff]
  by_cases same : probe = key
  · subst same
    unfold trimOrRemoveKey
    split
    · next absent => simp [absent]
    · next vals lookup =>
      have removed : (state.1.trimOrRemoveEntry probe vals rVals state.2.2).2.1 = true ↔ _ :=
        entry_removed lookup
      simp only [lookup, Option.isSome_some, true_and, ← removed]
      split
      · next gone => simp [gone]
      · next kept => simp [kept]
  · unfold trimOrRemoveKey
    split
    · simp [same]
    · simp only [same, false_and, or_false]
      split
      · simp [same]
      · rfl

private theorem trimOrRemove_goneKeys_fold (keys : List κ)
    (state : LocUnorderedSetMap κ ν × UnorderedSet κ × UnorderedSet ν)
    (full : state.1.NoEmptyEntry) :
    probe ∈ (keys.foldl (trimOrRemoveKey rVals) state).2.1 ↔ probe ∈ state.2.1 ∨
      probe ∈ keys ∧ (∃ value, state.1.Holds probe value) ∧
        ∀ value, state.1.Holds probe value → value ∈ rVals := by
  induction keys generalizing state with
  | nil => simp
  | cons head rest ih =>
    have kept (value : ν) := (trimOrRemoveKey_exact rVals head value state).1 probe
    rw [List.foldl_cons, ih _ (trimOrRemoveKey_full head state full),
      trimOrRemoveKey_goneKeys head state full]
    simp only [kept, List.mem_cons]
    by_cases same : probe = head
    · -- The entry of this key is trimmed once, and no more after it.
      simp only [same, true_and, true_or]
      constructor
      · rintro ((before | gone) | ⟨_, ⟨value, held, spared⟩, all⟩)
        · exact .inl before
        · exact .inr gone
        · exact absurd (all value ⟨held, spared⟩) spared
      · rintro (before | gone)
        · exact .inl (.inl before)
        · exact .inl (.inr gone)
    · simp only [same, false_and, false_or, or_false, not_false_eq_true, and_true]

/-- The reported keys are those of the given ones that lose all they held. -/
theorem trimOrRemove_goneKeys (full : map.NoEmptyEntry) :
    probe ∈ (map.trimOrRemove keys rVals goneKeys goneVals).2.1 ↔ probe ∈ goneKeys ∨
      probe ∈ keys ∧ (∃ value, map.Holds probe value) ∧
        ∀ value, map.Holds probe value → value ∈ rVals :=
  trimOrRemove_goneKeys_fold keys.elems (map, goneKeys, goneVals) full

theorem trimOrRemove_full (full : map.NoEmptyEntry) :
    (map.trimOrRemove keys rVals goneKeys goneVals).1.NoEmptyEntry := by
  exact List.foldlRecOn (motive := fun state => state.1.NoEmptyEntry) keys.elems
    (trimOrRemoveKey rVals) (b := (map, goneKeys, goneVals)) full
    (fun state whole key _ => trimOrRemoveKey_full key state whole)

theorem add_holds : (map.add key newVals).1.Holds probe value ↔
    map.Holds probe value ∨ probe = key ∧ value ∈ newVals := by
  unfold add
  split
  · rename_i nothing
    have absent := UnorderedSet.isEmpty_iff.mp nothing value
    grind
  · split
    · rename_i vals lookup
      have held := holds_of_lookup lookup value
      rw [holds_insert, UnorderedSet.mem_insertAll, ← UnorderedSet.mem_def]
      grind
    · rename_i lookup
      have absent := not_holds_of_lookup lookup value
      rw [holds_insert]
      grind

theorem add_full (full : map.NoEmptyEntry) : (map.add key newVals).1.NoEmptyEntry := by
  unfold add
  split
  · exact full
  · rename_i something
    have nonempty : newVals.isEmpty = false := by simpa using something
    split
    · obtain ⟨value, held⟩ := UnorderedSet.isEmpty_false_iff.mp nonempty
      exact noEmptyEntry_insert full (UnorderedSet.isEmpty_false_iff.mpr
        ⟨value, UnorderedSet.mem_insertAll.mpr (.inr held)⟩) key
    · exact noEmptyEntry_insert full nonempty key

private theorem addKeys_fold (keys : List κ) (state : LocUnorderedSetMap κ ν × UnorderedSet κ) :
    (keys.foldl (addKey newVals) state).1.Holds probe value ↔
      state.1.Holds probe value ∨ probe ∈ keys ∧ value ∈ newVals := by
  induction keys generalizing state with
  | nil => simp
  | cons head rest ih =>
    have turn : (addKey newVals state head).1 = (state.1.add head newVals).1 := rfl
    rw [List.foldl_cons, ih, turn, add_holds]
    grind

/-- Exactly the given values come, under exactly the given keys. -/
theorem addKeys_holds : (map.addKeys keys newVals newKeys).1.Holds probe value ↔
    map.Holds probe value ∨ probe ∈ keys ∧ value ∈ newVals :=
  addKeys_fold keys.elems (map, newKeys)

theorem addKeys_full (full : map.NoEmptyEntry) :
    (map.addKeys keys newVals newKeys).1.NoEmptyEntry :=
  List.foldlRecOn (motive := fun state => state.1.NoEmptyEntry) keys.elems (addKey newVals) full
    (fun _ whole _ _ => add_full whole)

private theorem addKey_newKeys (nonempty : newVals.isEmpty = false) (key : κ)
    (state : LocUnorderedSetMap κ ν × UnorderedSet κ) (full : state.1.NoEmptyEntry) :
    probe ∈ (addKey newVals state key).2 ↔
      probe ∈ state.2 ∨ probe = key ∧ ¬ ∃ value, state.1.Holds probe value := by
  rw [← full.isSome_iff]
  by_cases same : probe = key
  · subst same
    simp only [addKey, add, nonempty, Bool.false_eq_true, if_false, true_and]
    cases lookup : state.1.mMap.lookup probe <;> simp
  · simp only [addKey, same, false_and, or_false]
    split
    · simp [same]
    · rfl

private theorem addKeys_newKeys_fold (nonempty : newVals.isEmpty = false) (keys : List κ)
    (state : LocUnorderedSetMap κ ν × UnorderedSet κ) (full : state.1.NoEmptyEntry) :
    probe ∈ (keys.foldl (addKey newVals) state).2 ↔
      probe ∈ state.2 ∨ probe ∈ keys ∧ ¬ ∃ value, state.1.Holds probe value := by
  induction keys generalizing state with
  | nil => simp
  | cons head rest ih =>
    have turn : (addKey newVals state head).1 = (state.1.add head newVals).1 := rfl
    have fuller : (addKey newVals state head).1.NoEmptyEntry := add_full full
    rw [List.foldl_cons, ih _ fuller, addKey_newKeys nonempty head state full, turn]
    simp only [add_holds, List.mem_cons]
    obtain ⟨value, new⟩ := UnorderedSet.isEmpty_false_iff.mp nonempty
    by_cases same : probe = head
    · simp only [same, true_and, true_or]
      constructor
      · rintro ((before | absent) | ⟨_, absent⟩)
        · exact .inl before
        · exact .inr absent
        · exact absurd ⟨value, .inr new⟩ absent
      · rintro (before | absent)
        · exact .inl (.inl before)
        · exact .inl (.inr absent)
    · simp only [same, false_and, false_or, or_false]

/-- The reported keys are those of the given ones that were not there. -/
theorem addKeys_newKeys (full : map.NoEmptyEntry) (nonempty : newVals.isEmpty = false) :
    probe ∈ (map.addKeys keys newVals newKeys).2 ↔
      probe ∈ newKeys ∨ probe ∈ keys ∧ ¬ ∃ value, map.Holds probe value :=
  addKeys_newKeys_fold nonempty keys.elems (map, newKeys) full

/-- The key now maps to the new set and to nothing else; an empty new set
removes the entry, which comes to the same. -/
theorem update_holds : (map.update key newVals).1.Holds probe value ↔
    if probe = key then value ∈ newVals else map.Holds probe value := by
  unfold update
  split
  · rename_i nothing
    have absent := UnorderedSet.isEmpty_iff.mp nothing value
    rw [holds_erase]
    grind
  · exact holds_insert map key probe newVals value

theorem update_full (full : map.NoEmptyEntry) : (map.update key newVals).1.NoEmptyEntry := by
  unfold update
  split
  · exact noEmptyEntry_erase full key
  · rename_i something
    exact noEmptyEntry_insert full (by simpa using something) key

/-- What `update` returns is what the old and the new set have in common, not
what the old one loses. -/
theorem update_gone : value ∈ (map.update key newVals).2.1 ↔
    map.Holds key value ∧ value ∈ newVals := by
  unfold update
  split
  · rename_i nothing
    have absent := UnorderedSet.isEmpty_iff.mp nothing value
    simp [absent]
  · exact mem_interset_common

/-- `newVals` is left with what is new to the key. -/
theorem update_left : value ∈ (map.update key newVals).2.2 ↔
    value ∈ newVals ∧ ¬ map.Holds key value := by
  unfold update
  split
  · rename_i nothing
    have absent := UnorderedSet.isEmpty_iff.mp nothing value
    simp [absent]
  · exact mem_interset_second

end LocUnorderedSetMap
end Msm8917Common
