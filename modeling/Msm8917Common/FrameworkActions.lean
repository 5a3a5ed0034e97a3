import Mathlib.Logic.Function.Basic
import Msm8917Common.SystemStatusOsObserver

/-! The framework actions of `SystemStatusOsObserver.cpp`. The calls count the
requests for each item at once, and the framework is told later, in a message.
The message of `turnOn` is aimed at the observer itself, so the framework is never
told to turn anything on. -/
namespace Msm8917Common.FrameworkActions
open Runs

/-- Whose method a queued message calls: the observer and the framework object
have the same interface. -/
inductive ActionReq where
  | observer | framework
  deriving DecidableEq

inductive ActionMsg where
  | handleTurnOnMsg (mFrameworkActionReqObj : ActionReq) (mDataItemId : DataItemId) (mTimeOut : Int)
  | handleTurnOffMsg (mFrameworkActionReqObj : ActionReq) (mDataItemId : DataItemId)
  deriving DecidableEq

/-- A call that reaches the framework. -/
inductive FrameworkAction where
  | turnOn (dit : DataItemId) (timeOut : Int)
  | turnOff (dit : DataItemId)
  deriving DecidableEq

/-- The observer with its queue, and all that the framework was told, the latest
first. The framework object is set. -/
structure ActionWorld where
  mActiveRequestCount : DataItemId → Option Int
  queue : List ActionMsg
  told : List FrameworkAction

namespace ActionWorld
variable (world : ActionWorld)

def start : ActionWorld := ⟨fun _ => none, [], []⟩

def sendMsg (msg : ActionMsg) : ActionWorld := { world with queue := world.queue ++ [msg] }

def turnOn (dit : DataItemId) (timeOut : Int) : ActionWorld :=
  match world.mActiveRequestCount dit with
  | none =>
    { world with
      mActiveRequestCount := Function.update world.mActiveRequestCount dit (some 1) }.sendMsg
        (.handleTurnOnMsg .observer dit timeOut)
  | some second =>
    { world with
      mActiveRequestCount := Function.update world.mActiveRequestCount dit (some (second + 1)) }

def turnOff (dit : DataItemId) : ActionWorld :=
  match world.mActiveRequestCount dit with
  | none => world
  | some second =>
    if second - 1 = 0 then
      { world with
        mActiveRequestCount := Function.update world.mActiveRequestCount dit none }.sendMsg
          (.handleTurnOffMsg .framework dit)
    else
      { world with
        mActiveRequestCount := Function.update world.mActiveRequestCount dit (some (second - 1)) }

/-- `proc` of each message. -/
def proc : ActionMsg → ActionWorld
  | .handleTurnOnMsg .observer dit timeOut => world.turnOn dit timeOut
  | .handleTurnOnMsg .framework dit timeOut =>
    { world with told := .turnOn dit timeOut :: world.told }
  | .handleTurnOffMsg .observer dit => world.turnOff dit
  | .handleTurnOffMsg .framework dit => { world with told := .turnOff dit :: world.told }

end ActionWorld

/-- A call on the observer, or the message task processing its next message. -/
inductive ActionInput where
  | turnOn (dit : DataItemId) (timeOut : Int)
  | turnOff (dit : DataItemId)
  | proc
  deriving DecidableEq

def ActionWorld.step (world : ActionWorld) : ActionInput → ActionWorld
  | .turnOn dit timeOut => world.turnOn dit timeOut
  | .turnOff dit => world.turnOff dit
  | .proc =>
    match world.queue with
    | [] => world
    | msg :: rest => { world with queue := rest }.proc msg

/-- What the calls ask for one item: how many requests are outstanding, and how
often their number went up from zero and back to it. A `turnOff` has an effect
only while there is a request. -/
structure Requests where
  outstanding : Nat
  raised : Nat
  dropped : Nat
  deriving DecidableEq

def Requests.after (item : DataItemId) (requests : Requests) : ActionInput → Requests
  | .turnOn dit _ =>
    if dit = item then
      { requests with
        outstanding := requests.outstanding + 1
        raised := requests.raised + if requests.outstanding = 0 then 1 else 0 }
    else requests
  | .turnOff dit =>
    if dit = item ∧ requests.outstanding ≠ 0 then
      { requests with
        outstanding := requests.outstanding - 1
        dropped := requests.dropped + if requests.outstanding = 1 then 1 else 0 }
    else requests
  | .proc => requests

def requested (inputs : List ActionInput) (item : DataItemId) : Requests :=
  inputs.foldl (Requests.after item) ⟨0, 0, 0⟩

def FrameworkAction.turnsOn (item : DataItemId) : FrameworkAction → Bool
  | .turnOn dit _ => dit = item
  | .turnOff _ => false

def FrameworkAction.turnsOff (item : DataItemId) : FrameworkAction → Bool
  | .turnOn _ _ => false
  | .turnOff dit => dit = item

/-- The last that the framework was told of the item is to turn it on. -/
def isOn (told : List FrameworkAction) (item : DataItemId) : Bool :=
  (told.find? fun action => action.turnsOn item || action.turnsOff item).any
    (·.turnsOn item)

/-- The framework was told of each time that the requests for an item went up from
zero or back to it, once, and has the items on that are requested. -/
def Accounted (inputs : List ActionInput) (told : List FrameworkAction) : Prop :=
  ∀ item, told.countP (·.turnsOn item) = (requested inputs item).raised ∧
    told.countP (·.turnsOff item) = (requested inputs item).dropped ∧
    (isOn told item = true ↔ 0 < (requested inputs item).outstanding)

/-- No message is aimed at the framework to turn an item on, and none ever was. -/
structure NeverTurnsOn (world : ActionWorld) : Prop where
  queue : ∀ dit timeOut, .handleTurnOnMsg .framework dit timeOut ∉ world.queue
  told : ∀ dit timeOut, .turnOn dit timeOut ∉ world.told

section Step
variable {world : ActionWorld}

/-- Another message may be queued. -/
private theorem sendMsg_never {msg : ActionMsg} (never : NeverTurnsOn world)
    (other : ∀ dit timeOut, msg ≠ .handleTurnOnMsg .framework dit timeOut) :
    NeverTurnsOn (world.sendMsg msg) := by
  refine ⟨fun dit timeOut queued => ?_, never.told⟩
  rcases List.mem_append.mp queued with before | new
  · exact never.queue dit timeOut before
  · exact other dit timeOut (List.mem_singleton.mp new).symm

private theorem turnOn_never (dit : DataItemId) (timeOut : Int) (never : NeverTurnsOn world) :
    NeverTurnsOn (world.turnOn dit timeOut) := by
  unfold ActionWorld.turnOn
  split
  · apply sendMsg_never
    · exact ⟨never.queue, never.told⟩
    · rintro _ _ ⟨⟩
  · exact ⟨never.queue, never.told⟩

private theorem turnOff_never (dit : DataItemId) (never : NeverTurnsOn world) :
    NeverTurnsOn (world.turnOff dit) := by
  unfold ActionWorld.turnOff
  split
  · exact never
  · split
    · apply sendMsg_never
      · exact ⟨never.queue, never.told⟩
      · rintro _ _ ⟨⟩
    · exact ⟨never.queue, never.told⟩

/-- A queued `HandleTurnOnMsg` only comes back to the observer. -/
private theorem proc_never {msg : ActionMsg} (never : NeverTurnsOn world)
    (other : ∀ dit timeOut, msg ≠ .handleTurnOnMsg .framework dit timeOut) :
    NeverTurnsOn (world.proc msg) := by
  unfold ActionWorld.proc
  split
  · exact turnOn_never _ _ never
  · exact absurd rfl (other _ _)
  · exact turnOff_never _ never
  · refine ⟨never.queue, fun dit timeOut told => ?_⟩
    rcases List.mem_cons.mp told with new | before
    · cases new
    · exact never.told dit timeOut before

theorem step_never_turns_on (input : ActionInput) (never : NeverTurnsOn world) :
    NeverTurnsOn (world.step input) := by
  unfold ActionWorld.step
  split
  · exact turnOn_never _ _ never
  · exact turnOff_never _ never
  · split
    · exact never
    · next msg rest first =>
      refine proc_never ⟨fun dit timeOut queued => never.queue dit timeOut ?_, never.told⟩
        fun dit timeOut same => never.queue dit timeOut ?_
      · exact first ▸ List.mem_cons_of_mem msg queued
      · exact first ▸ same ▸ List.mem_cons_self

end Step

private theorem start_never : NeverTurnsOn .start where
  queue _ _ queued := by cases queued
  told _ _ told := by cases told

/-- No run tells the framework to turn anything on. -/
theorem framework_is_never_turned_on (inputs : List ActionInput) :
    ∀ world ∈ states ActionWorld.step .start inputs, NeverTurnsOn world :=
  invariant_states (fun _ input never => step_never_turns_on input never) inputs
    start_never

/-- Only the calls of `turnOn` change what a fresh observer holds. -/
private theorem untouched_without_turnOn {inputs : List ActionInput}
    (silent : ∀ dit timeOut, .turnOn dit timeOut ∉ inputs) :
    inputs.foldl ActionWorld.step .start = .start := by
  induction inputs with
  | nil => rfl
  | cons input rest ih =>
    have rest_silent := ih fun dit timeOut member => silent dit timeOut (List.mem_cons_of_mem _ member)
    rw [List.foldl_cons]
    cases input with
    | turnOn dit timeOut => exact absurd List.mem_cons_self (silent dit timeOut)
    | turnOff dit => exact rest_silent
    | proc => exact rest_silent

private theorem requested_without_turnOn {inputs : List ActionInput} (item : DataItemId)
    (silent : ∀ timeOut, .turnOn item timeOut ∉ inputs) :
    requested inputs item = ⟨0, 0, 0⟩ := by
  unfold requested
  induction inputs with
  | nil => rfl
  | cons input rest ih =>
    have rest_silent := ih fun timeOut member => silent timeOut (List.mem_cons_of_mem _ member)
    have unmoved : Requests.after item ⟨0, 0, 0⟩ input = ⟨0, 0, 0⟩ := by
      cases input with
      | turnOn dit timeOut =>
        apply if_neg
        rintro rfl
        exact silent timeOut List.mem_cons_self
      | turnOff dit => exact if_neg fun both => both.2 rfl
      | proc => rfl
    rw [List.foldl_cons, unmoved, rest_silent]

section Requests
variable {item : DataItemId} {requests : Requests}

private theorem raised_after (input : ActionInput) :
    requests.raised ≤ (requests.after item input).raised := by
  unfold Requests.after
  split
  · split
    · exact Nat.le_add_right _ _
    · exact Nat.le_refl _
  · split <;> exact Nat.le_refl _
  · exact Nat.le_refl _

private theorem raised_run (inputs : List ActionInput) :
    requests.raised ≤ (inputs.foldl (Requests.after item) requests).raised := by
  induction inputs generalizing requests with
  | nil => exact Nat.le_refl _
  | cons input rest ih => exact Nat.le_trans (raised_after input) ih

/-- Requests that are outstanding were raised from zero once. -/
private theorem outstanding_was_raised (input : ActionInput)
    (before : 0 < requests.outstanding → 0 < requests.raised)
    (outstanding : 0 < (requests.after item input).outstanding) :
    0 < (requests.after item input).raised := by
  cases input with
  | turnOn dit timeOut =>
    simp only [Requests.after] at outstanding ⊢
    split at outstanding
    · next same =>
      rw [if_pos same]
      by_cases first : requests.outstanding = 0
      · simp only [first, if_true]
        omega
      · have := before (Nat.pos_of_ne_zero first)
        simp only
        omega
    · next other =>
      rw [if_neg other]
      exact before outstanding
  | turnOff dit =>
    refine Nat.lt_of_lt_of_le (before ?_) (raised_after _)
    simp only [Requests.after] at outstanding
    split at outstanding
    · next both => exact Nat.pos_of_ne_zero both.2
    · exact outstanding
  | proc => exact before outstanding

end Requests

private theorem raised_by_turnOn {inputs : List ActionInput} {dit : DataItemId} {timeOut : Int}
    (called : .turnOn dit timeOut ∈ inputs) : 0 < (requested inputs dit).raised := by
  obtain ⟨before, later, rfl⟩ := List.append_of_mem called
  unfold requested
  rw [List.foldl_append, List.foldl_cons]
  refine Nat.lt_of_lt_of_le (outstanding_was_raised _ ?_ ?_) (raised_run later)
  · exact List.foldlRecOn (motive := fun requests : Requests =>
      0 < requests.outstanding → 0 < requests.raised) before _ (fun absurdly => absurdly)
      fun _ held input _ => outstanding_was_raised input held
  · simp only [Requests.after, if_true]
    exact Nat.succ_pos _

/-- The framework is accounted to exactly if nothing was ever to be turned on,
however much of the queue is processed. -/
theorem accounted_iff_nothing_turned_on (inputs : List ActionInput) :
    Accounted inputs (inputs.foldl ActionWorld.step .start).told ↔
      ∀ dit timeOut, .turnOn dit timeOut ∉ inputs := by
  constructor
  · intro accounted dit timeOut called
    have never := (framework_is_never_turned_on inputs _ (end_mem_states _ _)).told
    have raised := raised_by_turnOn called
    rw [← (accounted dit).1] at raised
    obtain ⟨action, told, turnsOn⟩ := List.countP_pos_iff.mp raised
    cases action with
    | turnOn other time => exact never other time told
    | turnOff other => cases turnsOn
  · intro silent item
    rw [untouched_without_turnOn silent, requested_without_turnOn item (silent item)]
    exact ⟨rfl, rfl, by simp [isOn, ActionWorld.start]⟩

/-- The message of `turnOn` comes back to the observer, which counts one request
more and tells the framework nothing. -/
theorem turnOn_never_reaches_the_framework : ¬ ∀ inputs : List ActionInput,
    (inputs.foldl ActionWorld.step .start).queue = [] →
      Accounted inputs (inputs.foldl ActionWorld.step .start).told := by
  intro accounted
  have told := (accounted [.turnOn .tac 0, .proc] (by decide) .tac).1
  exact absurd told (by decide)

end Msm8917Common.FrameworkActions
