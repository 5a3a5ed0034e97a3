import Mathlib.Data.Finset.Card
import Mathlib.Data.List.ReduceOption
import Mathlib.Logic.Function.Basic
import Msm8917Common.BitSets

/-! The array of adapters of `LocApiBase.cpp`. The loops over it stop at the first null
entry, so a removal moves the last adapter into the hole. -/
namespace Msm8917Common.LocApi

def MAX_ADAPTERS : Nat := 10

/-- Entries from `MAX_ADAPTERS` on are outside of the array. -/
structure LocApiBase (Adapter : Type*) where
  mLocAdapters : Nat → Option Adapter
  mExcludedMask : BitVec 64

/-- What a call has done besides: the message whose `proc` opens the connection with the
mask of that time, or the connection closed. -/
inductive Effect where
  | locOpenMsg
  | close
  deriving DecidableEq

/-- The calls that change the array. The pointer may be null. -/
inductive Call (Adapter : Type*) where
  | addAdapter (adapter : Option Adapter)
  | removeAdapter (adapter : Option Adapter)

/-- `while (++i < MAX_ADAPTERS && mLocAdapters[i] != NULL)`, from the `i` it is at next. -/
def afterLast {Adapter : Type*} (mLocAdapters : Nat → Option Adapter) (i : Nat) : Nat :=
  if i < MAX_ADAPTERS ∧ (mLocAdapters i).isSome then afterLast mLocAdapters (i + 1) else i
termination_by MAX_ADAPTERS - i

theorem le_afterLast {Adapter : Type*} (mLocAdapters : Nat → Option Adapter) (i : Nat) :
    i ≤ afterLast mLocAdapters i := by
  rw [afterLast]
  split
  · have onward := le_afterLast mLocAdapters (i + 1)
    omega
  · exact Nat.le_refl i
termination_by MAX_ADAPTERS - i

namespace LocApiBase
variable {Adapter : Type*}

/-- The constructor. -/
def new (excludedMask : BitVec 64) : LocApiBase Adapter := ⟨fun _ => none, excludedMask⟩

/-- The adapters that `TO_ALL_ADAPTERS` calls, in order. -/
def toAllAdapters (api : LocApiBase Adapter) : List Adapter :=
  (((List.range MAX_ADAPTERS).map api.mLocAdapters).takeWhile Option.isSome).reduceOption

/-- The adapter whose call ends `TO_1ST_HANDLING_ADAPTER`, if one handles the call. -/
def to1stHandlingAdapter (api : LocApiBase Adapter) (call : Adapter → Bool) : Option Adapter :=
  api.toAllAdapters.find? call

/-- The masks are those that the adapters have at the time. -/
def getEvtMask (api : LocApiBase Adapter) (masks : Adapter → BitVec 64) : BitVec 64 :=
  api.toAllAdapters.foldl (fun mask adapter => mask ||| masks adapter) 0#64 &&&
    ~~~api.mExcludedMask

variable [DecidableEq Adapter]

/-- The loop of `addAdapter` from `i` on. -/
def addFrom (adapter : Option Adapter) (i : Nat) (api : LocApiBase Adapter) :
    LocApiBase Adapter × List Effect :=
  if i < MAX_ADAPTERS ∧ api.mLocAdapters i ≠ adapter then
    if api.mLocAdapters i = none then
      ({ api with mLocAdapters := Function.update api.mLocAdapters i adapter }, [.locOpenMsg])
    else addFrom adapter (i + 1) api
  else (api, [])
termination_by MAX_ADAPTERS - i

def addAdapter (adapter : Option Adapter) (api : LocApiBase Adapter) :
    LocApiBase Adapter × List Effect := api.addFrom adapter 0

/-- The loop of `removeAdapter` from `i` on. -/
def removeFrom (adapter : Option Adapter) (i : Nat) (api : LocApiBase Adapter) :
    LocApiBase Adapter × List Effect :=
  if i < MAX_ADAPTERS ∧ (api.mLocAdapters i).isSome then
    if api.mLocAdapters i = adapter then
      let mLocAdapters := Function.update api.mLocAdapters i none
      let j := i
      let last := afterLast mLocAdapters (i + 1) - 1
      let mLocAdapters := Function.update mLocAdapters j (mLocAdapters last)
      let mLocAdapters := Function.update mLocAdapters last none
      let (api, effects) := removeFrom adapter (last + 1) { api with mLocAdapters }
      (api, (if last = 0 then .close else .locOpenMsg) :: effects)
    else removeFrom adapter (i + 1) api
  else (api, [])
termination_by MAX_ADAPTERS - i
decreasing_by
  · have onward := le_afterLast (Function.update api.mLocAdapters i none) (i + 1)
    omega
  · omega

def removeAdapter (adapter : Option Adapter) (api : LocApiBase Adapter) :
    LocApiBase Adapter × List Effect := api.removeFrom adapter 0

def step (api : LocApiBase Adapter) : Call Adapter → LocApiBase Adapter
  | .addAdapter adapter => (api.addAdapter adapter).1
  | .removeAdapter adapter => (api.removeAdapter adapter).1

end LocApiBase

/-- What the array is for: a set of adapters that has room for `MAX_ADAPTERS`. -/
def register {Adapter : Type*} [DecidableEq Adapter] (registered : Finset Adapter) :
    Call Adapter → Finset Adapter
  | .addAdapter (some adapter) =>
    if registered.card < MAX_ADAPTERS then insert adapter registered else registered
  | .removeAdapter (some adapter) => registered.erase adapter
  | .addAdapter none | .removeAdapter none => registered

end Msm8917Common.LocApi
