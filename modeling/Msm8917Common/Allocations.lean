import Mathlib.Data.List.Nodup
import Mathlib.Logic.Function.Basic

/-! A function that takes blocks of memory one after another, and on every way
out gives back what it has taken so far. The lists of what is given back are
written out by hand at each exit, so that they fit is a property of the list of
steps: `WellBalanced`. Nothing here names a particular program. -/
namespace Msm8917Common.Allocations

variable {ν β ε : Type*} [DecidableEq ν]

/-- The live blocks, by address. -/
abbrev Heap (β : Type*) := Nat → Option β

inductive Pointer where
  | uninitialised
  | null
  | block (address : Nat)
  deriving DecidableEq

/-- The heap, and how many allocations were asked for and refused so far. -/
structure Memory (β : Type*) where
  heap : Heap β
  asked : Nat
  refused : Nat

namespace Memory

/-- The environment answers each allocation, by its number: with an address that
is not in use, or not at all. -/
def answer (chosen : Nat → Option Nat) (memory : Memory β) : Option Nat :=
  (chosen memory.asked).filter fun address => (memory.heap address).isNone

def allocate (chosen : Nat → Option Nat) (content : β) (memory : Memory β) :
    Pointer × Memory β :=
  match memory.answer chosen with
  | some address => (.block address, { memory with
      heap := Function.update memory.heap address (some content), asked := memory.asked + 1 })
  | none => (.null, { memory with asked := memory.asked + 1, refused := memory.refused + 1 })

/-- A null pointer is skipped. Anything else that is not live is an error. -/
def free (pointer : Pointer) (memory : Memory β) : Option (Memory β) :=
  match pointer with
  | .uninitialised => none
  | .null => some memory
  | .block address =>
    if (memory.heap address).isSome then
      some { memory with heap := Function.update memory.heap address none }
    else none

def freeAll (pointers : List Pointer) (memory : Memory β) : Option (Memory β) :=
  pointers.foldlM (fun memory pointer => memory.free pointer) memory

end Memory

/-- What stands behind a pointer. -/
def read (heap : Heap β) : Pointer → Option β
  | .block address => heap address
  | .null => none
  | .uninitialised => none

/-- One step of the function. `releases` are the variables that it frees before
it returns early. -/
inductive Step (ν β ε : Type*) where
  | allocate (dest : ν) (content : β) (noMemory : ε) (releases : List ν)
  | setNull (dest : ν)
  | check (passes : Bool) (failure : ε) (releases : List ν)

/-- `undefined`: a pointer was freed that must not be. -/
inductive Outcome (ν β ε : Type*) where
  | undefined
  | failed (failure : ε) (memory : Memory β)
  | done (vars : ν → Pointer) (memory : Memory β)

/-- The way out of a step that fails. -/
def giveUp (failure : ε) (releases : List ν) (vars : ν → Pointer) (memory : Memory β) :
    Outcome ν β ε :=
  match memory.freeAll (releases.map vars) with
  | some memory => .failed failure memory
  | none => .undefined

def run (chosen : Nat → Option Nat) :
    List (Step ν β ε) → (ν → Pointer) → Memory β → Outcome ν β ε
  | [], vars, memory => .done vars memory
  | .setNull dest :: rest, vars, memory => run chosen rest (Function.update vars dest .null) memory
  | .check passes failure releases :: rest, vars, memory =>
    if passes then run chosen rest vars memory else giveUp failure releases vars memory
  | .allocate dest content noMemory releases :: rest, vars, memory =>
    match memory.allocate chosen content with
    | (.block address, memory) => run chosen rest (Function.update vars dest (.block address)) memory
    | (pointer, memory) => giveUp noMemory releases (Function.update vars dest pointer) memory

/-- The variables that are set once the steps are done. -/
def setAfter : List ν → List (Step ν β ε) → List ν
  | set, [] => set
  | set, .check _ _ _ :: rest => setAfter set rest
  | set, .setNull dest :: rest => setAfter (dest :: set) rest
  | set, .allocate dest _ _ _ :: rest => setAfter (dest :: set) rest

/-- What variables are before they are set. -/
def start (zeroed : Bool) (_ : ν) : Pointer := if zeroed then .null else .uninitialised

/-- A list of frees gives back everything that `held` holds, nothing twice, and,
where variables start uninitialised, nothing that is not among the `known`. -/
def Covers (zeroed : Bool) (held known releases : List ν) : Prop :=
  releases.Nodup ∧ (∀ var ∈ held, var ∈ releases) ∧
    (zeroed = false → ∀ var ∈ releases, var ∈ known)

instance (zeroed : Bool) (held known releases : List ν) :
    Decidable (Covers zeroed held known releases) :=
  inferInstanceAs (Decidable (_ ∧ _ ∧ _))

omit [DecidableEq ν] in
/-- Where every variable starts as `NULL`, a variable may be freed that is not set yet. -/
theorem covers_zeroed {held known releases : List ν} (distinct : releases.Nodup)
    (kept : ∀ var ∈ held, var ∈ releases) : Covers true held known releases :=
  ⟨distinct, kept, fun uninitialised => absurd uninitialised (by decide)⟩

/-- Every early return that can be reached gives back what the steps before it have set. -/
def WellBalanced (zeroed : Bool) : List ν → List (Step ν β ε) → Prop
  | _, [] => True
  | set, .setNull dest :: rest => dest ∉ set ∧ WellBalanced zeroed (dest :: set) rest
  | set, .check passes _ releases :: rest =>
    (passes = false → Covers zeroed set set releases) ∧ WellBalanced zeroed set rest
  | set, .allocate dest _ _ releases :: rest =>
    dest ∉ set ∧ Covers zeroed set (dest :: set) releases ∧ WellBalanced zeroed (dest :: set) rest

/-- What the steps put into a variable's block. -/
def contents : List (Step ν β ε) → ν → Option β
  | [], _ => none
  | .check _ _ _ :: rest, var => contents rest var
  | .setNull _ :: rest, var => contents rest var
  | .allocate dest content _ _ :: rest, var =>
    if var = dest then some content else contents rest var

/-- The failure of the first check that fails. -/
def rejected : List (Step ν β ε) → Option ε
  | [] => none
  | .check passes failure _ :: rest => if passes then rejected rest else some failure
  | .setNull _ :: rest => rejected rest
  | .allocate _ _ _ _ :: rest => rejected rest

/-- The failures that stand for memory that has run out. -/
def shortages : List (Step ν β ε) → List ε
  | [] => []
  | .allocate _ _ noMemory _ :: rest => noMemory :: shortages rest
  | .check _ _ _ :: rest => shortages rest
  | .setNull _ :: rest => shortages rest

section append

variable {steps more : List (Step ν β ε)}

omit [DecidableEq ν] in
theorem setAfter_append (set : List ν) :
    setAfter set (steps ++ more) = setAfter (setAfter set steps) more := by
  induction steps generalizing set with
  | nil => rfl
  | cons step rest ih => cases step <;> exact ih _

omit [DecidableEq ν] in
theorem balanced_append {zeroed : Bool} {set : List ν} :
    WellBalanced zeroed set (steps ++ more) ↔
      WellBalanced zeroed set steps ∧ WellBalanced zeroed (setAfter set steps) more := by
  induction steps generalizing set with
  | nil => simp [WellBalanced, setAfter]
  | cons step rest ih => cases step <;> simp [WellBalanced, setAfter, ih, and_assoc]

theorem contents_append (var : ν) :
    contents (steps ++ more) var = (contents steps var).or (contents more var) := by
  induction steps with
  | nil => simp [contents]
  | cons step rest ih =>
    cases step with
    | setNull dest => simpa [contents] using ih
    | check passes failure releases => simpa [contents] using ih
    | allocate dest content noMemory releases =>
      by_cases isDest : var = dest <;> simp [contents, isDest, ih]

omit [DecidableEq ν] in
theorem rejected_append : rejected (steps ++ more) = (rejected steps).or (rejected more) := by
  induction steps with
  | nil => simp [rejected]
  | cons step rest ih =>
    cases step with
    | setNull dest => simpa [rejected] using ih
    | check passes failure releases => cases passes <;> simp [rejected, ih]
    | allocate dest content noMemory releases => simpa [rejected] using ih

omit [DecidableEq ν] in
theorem shortages_append : shortages (steps ++ more) = shortages steps ++ shortages more := by
  induction steps with
  | nil => rfl
  | cons step rest ih => cases step <;> simp [shortages, ih]

end append

/-- The variables in `set` own the blocks that the heap has more than `base`,
each its own one, with the contents that `expected` says. -/
structure Held (base : Heap β) (zeroed : Bool) (set : List ν) (expected : ν → Option β)
    (vars : ν → Pointer) (heap : Heap β) : Prop where
  live : ∀ var address, vars var = .block address →
    var ∈ set ∧ base address = none ∧ (heap address).isSome
  apart : ∀ var other address, vars var = .block address → vars other = .block address → var = other
  others : ∀ address, (∀ var, vars var ≠ .block address) → heap address = base address
  known : ∀ var, vars var = .uninitialised → zeroed = false ∧ var ∉ set
  reads : ∀ var, read heap (vars var) = expected var

omit [DecidableEq ν] in
theorem held_start (zeroed : Bool) (heap : Heap β) :
    Held heap zeroed [] (fun _ : ν => none) (start zeroed) heap := by
  constructor <;> cases zeroed <;> simp [start, read]

omit [DecidableEq ν] in
/-- Frees that name each owned block once, and nothing else, restore the heap. -/
theorem freeAll_restores {base : Heap β} {vars : ν → Pointer}
    (apart : ∀ var other address, vars var = .block address → vars other = .block address → var = other)
    {releases : List ν} (distinct : releases.Nodup) (memory : Memory β)
    (known : ∀ var ∈ releases, vars var ≠ .uninitialised)
    (live : ∀ var ∈ releases, ∀ address, vars var = .block address →
      base address = none ∧ (memory.heap address).isSome)
    (others : ∀ address, (∀ var ∈ releases, vars var ≠ .block address) →
      memory.heap address = base address) :
    memory.freeAll (releases.map vars) = some { memory with heap := base } := by
  induction releases generalizing memory with
  | nil =>
    have same : memory.heap = base := funext fun address => others address (by simp)
    simp [Memory.freeAll, ← same]
  | cons var rest ih =>
    obtain ⟨fresh, distinct⟩ := List.nodup_cons.mp distinct
    have step : memory.freeAll ((var :: rest).map vars) =
        (memory.free (vars var)).bind fun memory => memory.freeAll (rest.map vars) := rfl
    rw [step]
    cases pointer : vars var with
    | uninitialised => exact absurd pointer (known var List.mem_cons_self)
    | null =>
      refine ih distinct memory (fun _ member => known _ (List.mem_cons_of_mem _ member))
        (fun _ member => live _ (List.mem_cons_of_mem _ member)) ?_
      intro address unused
      refine others address ?_
      simpa [pointer] using unused
    | block address =>
      obtain ⟨unused, isLive⟩ := live var List.mem_cons_self address pointer
      simp only [Memory.free, isLive, if_true, Option.bind_some]
      refine ih distinct _ (fun _ member => known _ (List.mem_cons_of_mem _ member)) ?_ ?_
      · intro other member at_ isAt
        obtain ⟨free, stillLive⟩ := live other (List.mem_cons_of_mem _ member) at_ isAt
        have different : at_ ≠ address := by
          rintro rfl
          exact fresh (apart var other at_ pointer isAt ▸ member)
        exact ⟨free, by simpa [different] using stillLive⟩
      · intro other notHeld
        by_cases same : other = address
        · simp [same, unused]
        · simp only [Function.update_of_ne same]
          refine others other ?_
          intro held member
          rcases List.mem_cons.mp member with rfl | later
          · rw [pointer]
            simpa using Ne.symm same
          · exact notHeld held later

section run

variable {base : Heap β} {zeroed : Bool} {set : List ν} {expected : ν → Option β}
  {vars : ν → Pointer} {heap : Heap β}

omit [DecidableEq ν] in
theorem held_freeAll {memory : Memory β} (held : Held base zeroed set expected vars memory.heap)
    {known releases : List ν} (covers : Covers zeroed set known releases)
    (initialised : ∀ var ∈ known, vars var ≠ .uninitialised) :
    memory.freeAll (releases.map vars) = some { memory with heap := base } := by
  obtain ⟨distinct, complete, only⟩ := covers
  refine freeAll_restores held.apart distinct memory ?_ ?_ ?_
  · intro var member missing
    obtain ⟨notZeroed, -⟩ := held.known var missing
    exact initialised var (only notZeroed var member) missing
  · intro var _ address isAt
    exact (held.live var address isAt).2
  · intro address unused
    refine held.others address fun var isAt => ?_
    exact unused var (complete var (held.live var address isAt).1) isAt

/-- A variable that owns nothing yet may become null. -/
theorem held_null (held : Held base zeroed set expected vars heap) {dest : ν}
    (unset : dest ∉ set) :
    Held base zeroed set expected (Function.update vars dest .null) heap := by
  have notOwned : ∀ address, vars dest ≠ .block address :=
    fun address isAt => unset (held.live dest address isAt).1
  have same : ∀ var address, Function.update vars dest .null var = .block address ↔
      vars var = .block address := by
    intro var address
    by_cases isDest : var = dest
    · subst isDest
      simpa using notOwned address
    · rw [Function.update_of_ne isDest]
  constructor
  case live => exact fun var address isAt => held.live var address ((same var address).mp isAt)
  case apart =>
    intro var other address isAt otherAt
    exact held.apart var other address ((same _ _).mp isAt) ((same _ _).mp otherAt)
  case others =>
    intro address unused
    exact held.others address fun var isAt => unused var ((same var address).mpr isAt)
  case known =>
    intro var missing
    by_cases isDest : var = dest
    · subst isDest
      simp at missing
    · rw [Function.update_of_ne isDest] at missing
      exact held.known var missing
  case reads =>
    intro var
    by_cases isDest : var = dest
    · subst isDest
      rw [← held.reads var]
      cases pointer : vars var with
      | block address => exact absurd pointer (notOwned address)
      | null => simp [read]
      | uninitialised => simp [read]
    · rw [Function.update_of_ne isDest, held.reads]

omit [DecidableEq ν] in
theorem held_cons (held : Held base zeroed set expected vars heap) {dest : ν}
    (initialised : vars dest ≠ .uninitialised) :
    Held base zeroed (dest :: set) expected vars heap := by
  constructor
  case live =>
    intro var address isAt
    obtain ⟨member, rest⟩ := held.live var address isAt
    exact ⟨List.mem_cons_of_mem _ member, rest⟩
  case apart => exact held.apart
  case others => exact held.others
  case known =>
    intro var missing
    obtain ⟨notZeroed, outside⟩ := held.known var missing
    refine ⟨notZeroed, ?_⟩
    rintro (_ | ⟨_, member⟩)
    · exact initialised missing
    · exact outside member
  case reads => exact held.reads

theorem held_allocate (held : Held base zeroed set expected vars heap) {dest : ν}
    (unset : dest ∉ set) {address : Nat} (free : heap address = none) (content : β) :
    Held base zeroed (dest :: set) (Function.update expected dest (some content))
      (Function.update vars dest (.block address))
      (Function.update heap address (some content)) := by
  have elsewhere : ∀ var at_, vars var = .block at_ → at_ ≠ address := by
    rintro var at_ isAt rfl
    simpa [free] using (held.live var at_ isAt).2.2
  have notOwned : ∀ at_, vars dest ≠ .block at_ :=
    fun at_ isAt => unset (held.live dest at_ isAt).1
  have unowned : base address = none := by
    rw [← held.others address fun var isAt => elsewhere var address isAt rfl, free]
  constructor
  case live =>
    intro var at_ isAt
    by_cases isDest : var = dest
    · subst isDest
      obtain rfl : address = at_ := by simpa using isAt
      exact ⟨List.mem_cons_self, unowned, by simp⟩
    · rw [Function.update_of_ne isDest] at isAt
      obtain ⟨member, noBase, isLive⟩ := held.live var at_ isAt
      exact ⟨List.mem_cons_of_mem _ member, noBase, by simpa [elsewhere var at_ isAt] using isLive⟩
  case apart =>
    intro var other at_ isAt otherAt
    by_cases isDest : var = dest <;> by_cases otherDest : other = dest
    · rw [isDest, otherDest]
    · subst isDest
      obtain rfl : address = at_ := by simpa using isAt
      rw [Function.update_of_ne otherDest] at otherAt
      exact absurd rfl (elsewhere other address otherAt)
    · subst otherDest
      obtain rfl : address = at_ := by simpa using otherAt
      rw [Function.update_of_ne isDest] at isAt
      exact absurd rfl (elsewhere var address isAt)
    · rw [Function.update_of_ne isDest] at isAt
      rw [Function.update_of_ne otherDest] at otherAt
      exact held.apart var other at_ isAt otherAt
  case others =>
    intro at_ unused
    have different : at_ ≠ address := by
      rintro rfl
      exact unused dest (by simp)
    rw [Function.update_of_ne different]
    refine held.others at_ fun var isAt => unused var ?_
    have isOther : var ≠ dest := by
      rintro rfl
      exact notOwned at_ isAt
    rw [Function.update_of_ne isOther, isAt]
  case known =>
    intro var missing
    by_cases isDest : var = dest
    · subst isDest
      simp at missing
    · rw [Function.update_of_ne isDest] at missing
      obtain ⟨notZeroed, outside⟩ := held.known var missing
      exact ⟨notZeroed, by simp [isDest, outside]⟩
  case reads =>
    intro var
    by_cases isDest : var = dest
    · subst isDest
      simp [read]
    · rw [Function.update_of_ne isDest, Function.update_of_ne isDest, ← held.reads var]
      cases pointer : vars var with
      | block at_ => simp [read, elsewhere var at_ pointer]
      | null => rfl
      | uninitialised => rfl

omit [DecidableEq ν] in
theorem initialised_of_set (held : Held base zeroed set expected vars heap) :
    ∀ var ∈ set, vars var ≠ .uninitialised :=
  fun var member missing => (held.known var missing).2 member

/-- How a list of steps ends, against the heap it was started on: it fails, and
the heap is as it was, or it is done, and the variables own their blocks. -/
def Ends (base : Heap β) (zeroed : Bool) (set : List ν) (expected : ν → Option β)
    (steps : List (Step ν β ε)) (refused : Nat) : Outcome ν β ε → Prop
  | .undefined => False
  | .failed failure after => after.heap = base ∧
      (rejected steps = some failure ∧ after.refused = refused ∨
        failure ∈ shortages steps ∧ after.refused = refused + 1)
  | .done vars after => rejected steps = none ∧ after.refused = refused ∧
      Held base zeroed set expected vars after.heap

omit [DecidableEq ν] in
theorem giveUp_of_covers (memory : Memory β)
    (held : Held base zeroed set expected vars memory.heap)
    {known releases : List ν} (covers : Covers zeroed set known releases)
    (initialised : ∀ var ∈ known, vars var ≠ .uninitialised) (failure : ε) :
    giveUp failure releases vars memory = .failed failure { memory with heap := base } := by
  rw [giveUp, held_freeAll held covers initialised]

theorem contents_of_set {steps : List (Step ν β ε)} (balanced : WellBalanced zeroed set steps)
    {var : ν} (member : var ∈ set) : contents steps var = none := by
  induction steps generalizing set with
  | nil => rfl
  | cons step rest ih =>
    cases step with
    | setNull dest => exact ih balanced.2 (List.mem_cons_of_mem _ member)
    | check passes failure releases => exact ih balanced.2 member
    | allocate dest content noMemory releases =>
      have different : var ≠ dest := by
        rintro rfl
        exact balanced.1 member
      rw [contents, if_neg different]
      exact ih balanced.2.2 (List.mem_cons_of_mem _ member)

omit [DecidableEq ν] in
/-- What the steps behind an allocation end with. -/
theorem ends_allocate {dest : ν} {content : β} {noMemory : ε} {releases : List ν}
    {rest : List (Step ν β ε)} {refused : Nat} {outcome : Outcome ν β ε}
    (ends : Ends base zeroed set expected rest refused outcome) :
    Ends base zeroed set expected (.allocate dest content noMemory releases :: rest) refused
      outcome := by
  cases outcome with
  | undefined => exact ends
  | failed failure after =>
    obtain ⟨restored, why⟩ := ends
    exact ⟨restored, why.imp_right fun short => ⟨List.mem_cons_of_mem _ short.1, short.2⟩⟩
  | done vars after => exact ends

/-- WellBalanced steps give back on every early return what they have taken, and free
nothing else; otherwise each variable has its block. -/
theorem run_balanced (chosen : Nat → Option Nat) (steps : List (Step ν β ε))
    {memory : Memory β} (held : Held base zeroed set expected vars memory.heap)
    (balanced : WellBalanced zeroed set steps) :
    Ends base zeroed (setAfter set steps) (fun var => (contents steps var).or (expected var))
      steps memory.refused (run chosen steps vars memory) := by
  induction steps generalizing set expected vars memory with
  | nil => exact ⟨rfl, rfl, by simpa [setAfter, contents] using held⟩
  | cons step rest ih =>
    cases step with
    | setNull dest => exact ih (held_cons (held_null held balanced.1) (by simp)) balanced.2
    | check passes failure releases =>
      cases passes with
      | true => exact ih held balanced.2
      | false =>
        simp only [run, Bool.false_eq_true, if_false]
        rw [giveUp_of_covers memory held (balanced.1 rfl) (initialised_of_set held)]
        exact ⟨rfl, .inl ⟨rfl, rfl⟩⟩
    | allocate dest content noMemory releases =>
      obtain ⟨unset, covers, balanced⟩ := balanced
      simp only [run, Memory.allocate]
      cases answer : memory.answer chosen with
      | none =>
        have nulled := held_null held unset
        dsimp only
        rw [giveUp_of_covers ⟨memory.heap, memory.asked + 1, memory.refused + 1⟩ nulled covers
          (initialised_of_set (held_cons nulled (by simp)))]
        exact ⟨rfl, .inr ⟨List.mem_cons_self, rfl⟩⟩
      | some address =>
        have free : memory.heap address = none := by
          simpa using (Option.filter_eq_some_iff.mp answer).2
        have same : (fun var => (contents (.allocate dest content noMemory releases :: rest) var).or
            (expected var)) = fun var => (contents rest var).or
              (Function.update expected dest (some content) var) := by
          funext var
          by_cases isDest : var = dest
          · subst isDest
            simp [contents, contents_of_set balanced List.mem_cons_self]
          · simp [contents, isDest]
        rw [same]
        refine ends_allocate ?_
        exact ih (held_allocate held unset free content) balanced

end run

end Msm8917Common.Allocations
