import Mathlib.Data.List.Nodup
import Msm8917Common.NiSessions
import Msm8917Common.Runs

/-! What becomes of each raw request. It is at one place at a time, whatever the
order of the steps, so it is answered or freed once. Its answer is its own as long
as a response is written into a session that still holds the request it was meant
for. -/
namespace Msm8917Common.Gnss.Ni
open Runs

/-! ## Every request is somewhere -/

def NiMsg.request : NiMsg → Option Nat
  | .reportNiNotify _ data => some data
  | .clientResponse _ _ _ => none
  | .informNiResponse _ payload => some payload

/-- What a thread behind the lock has to send. -/
def Stage.answer : Stage → Option (GnssNiResponse × Nat)
  | .clearingTime answer | .clearingId answer | .sending answer => answer
  | .locking | .waiting _ | .finished => none

/-- A thread that has not been through the locked section. -/
def Stage.before : Stage → Bool
  | .locking | .waiting _ => true
  | .clearingTime _ | .clearingId _ | .sending _ | .finished => false

def Worker.waitsAt (worker : Worker) (slot : Slot) : Bool :=
  worker.slot = slot && worker.stage.before

namespace NiWorld

/-- The requests that are done with. -/
def outcomes (world : NiWorld) : List Nat :=
  world.answered.map (·.2) ++ world.refused.map (·.1) ++ world.ignored

/-- At how many places a request is. -/
def tally (world : NiWorld) (request : Nat) : Nat :=
  (world.queue.filterMap NiMsg.request).count request +
    (world.niData .session).rawRequest.toList.count request +
    (world.niData .sessionEs).rawRequest.toList.count request +
    (world.workers.filterMap fun worker => worker.stage.answer.map (·.2)).count request +
    world.outcomes.count request

/-- How many threads a session has that have not been through its locked section. -/
def waiters (world : NiWorld) (slot : Slot) : Nat :=
  world.workers.countP (·.waitsAt slot)

/-- Nothing is under way. -/
def Quiet (world : NiWorld) : Prop :=
  world.queue = [] ∧ ∀ worker ∈ world.workers, worker.stage = .finished

end NiWorld

/-- Every request that came is done with at most once, and once nothing is under way
any more, exactly once. -/
structure SettledOnce (world : NiWorld) : Prop where
  once : world.outcomes.Nodup
  all : world.Quiet → ∀ request, request ∈ world.outcomes ↔ request < world.came

/-- Each request is at one place, and a session holds one exactly while it has a
thread that is going to take it out. -/
structure Accounted (world : NiWorld) : Prop where
  placed : ∀ request, world.tally request = if request < world.came then 1 else 0
  manned : ∀ slot, world.waiters slot = if (world.niData slot).rawRequest.isSome then 1 else 0

theorem Accounted.settled {world : NiWorld} (accounted : Accounted world) : SettledOnce world where
  once := by
    rw [List.nodup_iff_count_le_one]
    intro request
    have placed := accounted.placed request
    unfold NiWorld.tally at placed
    split at placed <;> omega
  all := by
    rintro ⟨queue, finished⟩ request
    have free : ∀ slot, (world.niData slot).rawRequest = none := by
      intro slot
      have manned := accounted.manned slot
      have none_waits : world.waiters slot = 0 := by
        refine List.countP_eq_zero.mpr fun worker member => ?_
        simp [Worker.waitsAt, finished worker member, Stage.before]
      cases held : (world.niData slot).rawRequest with
      | none => rfl
      | some request => simp [held, none_waits] at manned
    have empty : (world.workers.filterMap fun worker => worker.stage.answer.map (·.2)) = [] := by
      refine List.filterMap_eq_nil_iff.mpr fun worker member => ?_
      rw [finished worker member]
      rfl
    have placed := accounted.placed request
    simp only [NiWorld.tally, queue, free, empty, List.filterMap_nil, Option.toList_none,
      List.count_nil, Nat.zero_add] at placed
    rw [← List.count_pos_iff, placed]
    split
    · next came => simp [came]
    · next absent => simp [absent]

section Lists
variable {α β : Type*}

/-- One element of a list is replaced, and with it what it contributes. -/
theorem count_filterMap_set [DecidableEq β] (part : α → Option β) {elements : List α} {index : Nat}
    {old : α} (held : elements[index]? = some old) (new : α) (wanted : β) :
    ((elements.set index new).filterMap part).count wanted + (part old).toList.count wanted =
      (elements.filterMap part).count wanted + (part new).toList.count wanted := by
  induction elements generalizing index with
  | nil => cases held
  | cons first rest ih =>
    have split : ∀ element : α, ∀ later : List α,
        ((element :: later).filterMap part).count wanted =
          (part element).toList.count wanted + (later.filterMap part).count wanted := by
      intro element later
      rw [List.filterMap_cons]
      cases part element with
      | none => simp
      | some value => simp [List.count_cons, Nat.add_comm]
    cases index with
    | zero =>
      cases held
      rw [List.set_cons_zero, split, split]
      omega
    | succ index =>
      rw [List.set_cons_succ, split, split]
      have later := @ih index held
      omega

theorem countP_set_of_getElem? (counts : α → Bool) {elements : List α} {index : Nat}
    {old : α} (held : elements[index]? = some old) (new : α) :
    (elements.set index new).countP counts + (if counts old then 1 else 0) =
      elements.countP counts + (if counts new then 1 else 0) := by
  obtain ⟨inside, same⟩ := List.getElem?_eq_some_iff.mp held
  have positive : counts old = true → 0 < elements.countP counts := fun counted =>
    List.countP_pos_iff.mpr ⟨old, List.mem_of_getElem? held, counted⟩
  rw [List.countP_set inside, same]
  split
  · next counted =>
    have present := positive counted
    omega
  · omega

end Lists

section Places
variable (world : NiWorld) (request : Nat)

@[simp] theorem save_self (slot : Slot) (session : NiSession) :
    (world.save slot session).niData slot = session := Function.update_self ..

theorem save_other {slot other : Slot} (session : NiSession) (differs : other ≠ slot) :
    (world.save slot session).niData other = world.niData other :=
  Function.update_of_ne differs ..

theorem sendMsg_tally (msg : NiMsg) : (world.sendMsg msg).tally request =
    world.tally request + msg.request.toList.count request := by
  have queued : ((world.queue ++ [msg]).filterMap NiMsg.request).count request =
      (world.queue.filterMap NiMsg.request).count request +
        msg.request.toList.count request := by
    rw [List.filterMap_append, List.count_append]
    cases present : msg.request <;> simp [present]
  simp only [NiWorld.tally, NiWorld.sendMsg, queued, NiWorld.outcomes]
  omega

theorem popped_tally {msg : NiMsg} {rest : List NiMsg} (waiting : world.queue = msg :: rest) :
    { world with queue := rest }.tally request + msg.request.toList.count request =
      world.tally request := by
  have queued : (world.queue.filterMap NiMsg.request).count request =
      msg.request.toList.count request + (rest.filterMap NiMsg.request).count request := by
    rw [waiting, List.filterMap_cons]
    cases present : msg.request <;> simp [List.count_cons, Nat.add_comm]
  simp only [NiWorld.tally, queued, NiWorld.outcomes]
  omega

theorem save_tally (slot : Slot) (session : NiSession) :
    (world.save slot session).tally request +
        (world.niData slot).rawRequest.toList.count request =
      world.tally request + session.rawRequest.toList.count request := by
  cases slot <;> simp [NiWorld.tally, NiWorld.save, NiWorld.outcomes] <;> omega

theorem goTo_tally {index : Nat} {old : Worker} (held : world.workers[index]? = some old)
    (new : Worker) :
    (world.goTo index new).tally request +
        (old.stage.answer.map (·.2)).toList.count request =
      world.tally request + (new.stage.answer.map (·.2)).toList.count request := by
  have replaced := count_filterMap_set (fun worker => worker.stage.answer.map (·.2)) held new request
  simp only [NiWorld.tally, NiWorld.goTo, NiWorld.outcomes] at replaced ⊢
  omega

theorem goTo_waiters (slot : Slot) {index : Nat} {old : Worker}
    (held : world.workers[index]? = some old) (new : Worker) :
    (world.goTo index new).waiters slot + (if old.waitsAt slot then 1 else 0) =
      world.waiters slot + (if new.waitsAt slot then 1 else 0) :=
  countP_set_of_getElem? (fun worker : Worker => worker.waitsAt slot) held new

theorem free_tally (requests : List Nat) : (world.free requests).tally request =
    world.tally request + requests.count request := by
  simp only [NiWorld.tally, NiWorld.free, NiWorld.outcomes, List.count_append]
  omega

end Places

section Accounts
variable {world : NiWorld}

theorem start_accounted : Accounted .start where
  placed := fun request => by simp [NiWorld.tally, NiWorld.start, NiWorld.outcomes]
  manned := fun slot => rfl

/-- A step that leaves the requests where they are. -/
theorem Accounted.of_same (accounted : Accounted world) {next : NiWorld}
    (tally : ∀ request, next.tally request = world.tally request) (came : next.came = world.came)
    (waiters : ∀ slot, next.waiters slot = world.waiters slot)
    (held : ∀ slot, (next.niData slot).rawRequest.isSome =
      (world.niData slot).rawRequest.isSome) : Accounted next where
  placed := fun request => by rw [tally, came, accounted.placed]
  manned := fun slot => by rw [waiters, held, accounted.manned]

/-- A session changes in all but its request. -/
theorem Accounted.save (accounted : Accounted world) {slot : Slot} {session : NiSession}
    (same : session.rawRequest = (world.niData slot).rawRequest) :
    Accounted (world.save slot session) := by
  refine accounted.of_same (fun request => ?_) rfl (fun _ => rfl) fun other => ?_
  · have saved := save_tally world request slot session
    rw [same] at saved
    exact Nat.add_right_cancel saved
  · by_cases here : other = slot
    · subst here
      rw [save_self, same]
    · rw [save_other _ _ here]

/-- A thread goes on with what it has to send, on its side of the lock. -/
theorem Accounted.goTo (accounted : Accounted world) {index : Nat} {slot : Slot} {old new : Stage}
    (held : world.workers[index]? = some ⟨slot, old⟩) (answer : new.answer = old.answer)
    (before : new.before = old.before) : Accounted (world.goTo index ⟨slot, new⟩) := by
  refine accounted.of_same (fun request => ?_) rfl (fun other => ?_) fun _ => rfl
  · have moved := goTo_tally world request held ⟨slot, new⟩
    simp only [answer] at moved
    exact Nat.add_right_cancel moved
  · have moved := goTo_waiters world other held ⟨slot, new⟩
    simp only [Worker.waitsAt, before] at moved
    exact Nat.add_right_cancel moved

/-- The session that is chosen for a request is free. -/
theorem chosen_free {type : GnssNiType} {slot : Slot} (chosen : world.chosen type = .inl slot) :
    (world.niData slot).rawRequest = none := by
  unfold NiWorld.chosen at chosen
  split at chosen
  · split at chosen
    · cases chosen
    · next free =>
      cases chosen
      exact free
  · split at chosen
    · cases chosen
    · cases chosen
    · next free _ =>
      cases chosen
      exact free

/-- A new request is saved or freed; before, it was nowhere but in its message. -/
theorem requestNiNotify_tally (world : NiWorld) (notify : GnssNiNotification)
    (data request : Nat) : (world.requestNiNotify notify data).tally request =
      world.tally request + [data].count request := by
  unfold NiWorld.requestNiNotify
  cases chosen : world.chosen notify.type with
  | inr other =>
    simp only [NiWorld.tally, NiWorld.outcomes, List.map_cons, List.count_append,
      List.count_cons, List.count_nil]
    omega
  | inl slot =>
    have saved := fun session => save_tally world request slot session
    simp only [chosen_free chosen, Option.toList_none, List.count_nil, Nat.add_zero] at saved
    have appended : ∀ before : NiWorld, ∀ worker : Worker, worker.stage.answer = none →
        ((before.workers ++ [worker]).filterMap
          fun worker => worker.stage.answer.map (·.2)).count request =
        (before.workers.filterMap fun worker => worker.stage.answer.map (·.2)).count request := by
      intro before worker empty
      simp [empty]
    refine Eq.trans ?_ (saved { world.niData slot with
      rawRequest := some data
      reqID := world.reqIDCounter + 1
      respTimeLeft := 5 + if notify.timeout ≠ 0 then notify.timeout else locNiNoResponseTime })
    simp only [NiWorld.tally, NiWorld.outcomes, NiWorld.save,
      appended world ⟨slot, .locking⟩ rfl]

theorem requestNiNotify_manned {notify : GnssNiNotification} {data : Nat}
    (manned : ∀ slot, world.waiters slot = if (world.niData slot).rawRequest.isSome then 1 else 0)
    (slot : Slot) : (world.requestNiNotify notify data).waiters slot =
      if ((world.requestNiNotify notify data).niData slot).rawRequest.isSome then 1 else 0 := by
  unfold NiWorld.requestNiNotify
  cases chosen : world.chosen notify.type with
  | inr other => exact manned slot
  | inl taken =>
    have before : world.workers.countP (fun worker => worker.waitsAt slot) = _ := manned slot
    have appended : (world.workers ++ [(⟨taken, .locking⟩ : Worker)]).countP
        (fun worker => worker.waitsAt slot) =
          world.workers.countP (fun worker => worker.waitsAt slot) +
            if taken = slot then 1 else 0 := by
      rw [List.countP_append, List.countP_singleton]
      congr 1
      simp [Worker.waitsAt, Stage.before]
    simp only [NiWorld.waiters, appended, before, NiWorld.save]
    by_cases same : slot = taken
    · subst same
      simp [chosen_free chosen]
    · simp [same, Ne.symm same]

theorem Accounted.requestNiNotify (accounted : Accounted world) {notify : GnssNiNotification}
    {data : Nat} {rest : List NiMsg} (waiting : world.queue = .reportNiNotify notify data :: rest) :
    Accounted ({ world with queue := rest }.requestNiNotify notify data) where
  placed := by
    intro request
    have moved := popped_tally world request waiting
    have same : ({ world with queue := rest }.requestNiNotify notify data).came = world.came := by
      unfold NiWorld.requestNiNotify
      split <;> rfl
    rw [requestNiNotify_tally, same, ← accounted.placed request, ← moved]
    rfl
  manned := requestNiNotify_manned accounted.manned

theorem process_accounted (accounted : Accounted world) {msg : NiMsg} {rest : List NiMsg}
    (waiting : world.queue = msg :: rest) (hasNiNotifyCallback : Bool) :
    Accounted ({ world with queue := rest }.process hasNiNotifyCallback msg) := by
  have moved := fun request => popped_tally world request waiting
  cases msg with
  | reportNiNotify notify data => exact accounted.requestNiNotify waiting
  | informNiResponse response payload =>
    refine accounted.of_same (fun request => ?_) rfl (fun _ => rfl) fun _ => rfl
    rw [← moved]
    simp only [NiWorld.process, NiWorld.tally, NiWorld.outcomes, NiMsg.request, List.map_cons,
      List.cons_append, Option.toList_some, List.count_cons, List.count_nil]
    omega
  | clientResponse client sessionId response =>
    have popped : Accounted { world with queue := rest } :=
      accounted.of_same (fun request => moved request) rfl (fun _ => rfl) fun _ => rfl
    simp only [NiWorld.process]
    split
    · exact popped
    · split <;> exact ⟨popped.placed, popped.manned⟩

/-- What a thread finds in the session it sends or frees. -/
theorem answer_or_freed (session : NiSession) (request : Nat) :
    (session.answer.map (·.2)).toList.count request + session.freed.count request =
      session.rawRequest.toList.count request := by
  unfold NiSession.answer NiSession.freed
  cases session.rawRequest with
  | none => split <;> rfl
  | some held => split <;> simp_all

theorem take_tally {index : Nat} {slot : Slot} {stage : Stage}
    (held : world.workers[index]? = some ⟨slot, stage⟩) (before : stage.before = true)
    (request : Nat) : (world.take index slot).tally request = world.tally request := by
  have empty : stage.answer = none := by
    cases stage <;> first | rfl | cases before
  have moved := fun session new => goTo_tally (world.save slot session) request held new
  have saved := fun session => save_tally world request slot session
  have found := answer_or_freed (world.niData slot) request
  simp only [empty, Option.map_none, Option.toList_none, List.count_nil, Nat.add_zero] at moved
  rw [NiWorld.take, free_tally, moved]
  have emptied := saved { world.niData slot with respRecvd := false, rawRequest := none }
  simp only [Option.toList_none, List.count_nil, Nat.add_zero] at emptied
  simp only [Stage.answer]
  omega

/-- A thread goes through the locked section. -/
theorem Accounted.take (accounted : Accounted world) {index : Nat} {slot : Slot} {stage : Stage}
    (held : world.workers[index]? = some ⟨slot, stage⟩) (before : stage.before = true) :
    Accounted (world.take index slot) where
  placed := fun request => (take_tally held before request).trans (accounted.placed request)
  manned := by
    intro other
    have manned := accounted.manned other
    have after : ∀ answer, (Stage.clearingTime answer).before = false := fun _ => rfl
    have moved := goTo_waiters world other held ⟨slot, .clearingTime (world.niData slot).answer⟩
    simp only [Worker.waitsAt, before, after, Bool.and_true, Bool.and_false, decide_eq_true_eq,
      Bool.false_eq_true, if_false, Nat.add_zero] at moved
    change NiWorld.waiters (world.goTo index _) other = _
    by_cases same : other = slot
    · subst same
      simp only [NiWorld.take, NiWorld.free, NiWorld.goTo, NiWorld.save, Function.update_self,
        Option.isSome_none, Bool.false_eq_true, if_false, if_true] at moved ⊢
      split at manned <;> omega
    · simp only [NiWorld.take, NiWorld.free, NiWorld.goTo, NiWorld.save,
        Function.update_of_ne same, Ne.symm same, if_false, Nat.add_zero] at moved ⊢
      exact moved.trans manned

theorem runTask_accounted (accounted : Accounted world) (hasNiNotifyCallback : Bool) :
    Accounted (world.runTask hasNiNotifyCallback) := by
  unfold NiWorld.runTask
  split
  · split
    · exact accounted
    · next waiting => exact process_accounted accounted waiting hasNiNotifyCallback
  · exact ⟨accounted.placed, accounted.manned⟩
  · split <;> exact ⟨accounted.placed, accounted.manned⟩
  · have written := accounted.save (show { world.niData .session with
      resp := .ignore, respRecvd := true }.rawRequest = _ from rfl)
    exact ⟨written.placed, written.manned⟩
  · next slot _ response _ _ =>
    have written := accounted.save (show { world.niData slot with
      resp := response, respRecvd := true }.rawRequest = _ from rfl)
    exact ⟨written.placed, written.manned⟩

theorem runThread_accounted (accounted : Accounted world) (index : Nat) :
    Accounted (world.runThread index) := by
  unfold NiWorld.runThread
  split
  · exact accounted
  · next slot stage held =>
    cases stage with
    | locking =>
      simp only
      split
      · exact accounted.take held rfl
      · exact accounted.goTo held rfl rfl
    | waiting expire =>
      simp only
      split
      · exact accounted.take held rfl
      · exact accounted
    | clearingTime answer =>
      have cleared := accounted.save (show { world.niData slot with
        respTimeLeft := 0 }.rawRequest = _ from rfl)
      exact cleared.goTo held rfl rfl
    | clearingId answer =>
      have cleared := accounted.save (show { world.niData slot with
        reqID := 0 }.rawRequest = _ from rfl)
      exact cleared.goTo held rfl rfl
    | sending answer =>
      cases answer with
      | none => exact accounted.goTo held rfl rfl
      | some answer =>
        refine accounted.of_same (fun request => ?_) rfl (fun other => ?_) fun _ => rfl
        · have moved := goTo_tally world request held ⟨slot, .finished⟩
          have sent := sendMsg_tally (world.goTo index ⟨slot, .finished⟩) request
            (.informNiResponse answer.1 answer.2)
          apply sent.trans
          simp only [Stage.answer, Option.map_some, Option.map_none, Option.toList_none,
            List.count_nil, Nat.add_zero] at moved
          exact moved
        · have moved := goTo_waiters world other held ⟨slot, .finished⟩
          exact Nat.add_right_cancel moved
    | finished => exact accounted

theorem timeOut_accounted (accounted : Accounted world) (index : Nat) :
    Accounted (world.timeOut index) := by
  unfold NiWorld.timeOut
  split
  · next slot expire held =>
    split
    · have written := accounted.save (show { world.niData slot with
        resp := .noResponse }.rawRequest = _ from rfl)
      exact written.take held rfl
    · exact accounted
  · exact accounted

theorem step_accounted (world : NiWorld) (input : NiInput) (accounted : Accounted world) :
    Accounted (world.step input) := by
  cases input with
  | requestNiNotifyEvent notify =>
    refine ⟨fun request => ?_, accounted.manned⟩
    have sent := sendMsg_tally world request (.reportNiNotify notify world.came)
    apply sent.trans
    rw [accounted.placed request]
    simp only [NiWorld.step, NiMsg.request, Option.toList_some, List.count_singleton, beq_iff_eq]
    change (if request < world.came then 1 else 0) + _ = if request < world.came + 1 then 1 else 0
    split <;> split <;> split <;> omega
  | gnssNiResponseCommand client sessionId response =>
    refine accounted.of_same (fun request => ?_) rfl (fun _ => rfl) fun _ => rfl
    exact sendMsg_tally world request (.clientResponse client sessionId response)
  | tick seconds => exact ⟨accounted.placed, accounted.manned⟩
  | task hasNiNotifyCallback => exact runTask_accounted accounted hasNiNotifyCallback
  | thread index => exact runThread_accounted accounted index
  | timeOut index => exact timeOut_accounted accounted index

end Accounts

end Msm8917Common.Gnss.Ni
