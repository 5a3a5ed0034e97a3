import Msm8917Common.AgpsWorld

/-! What a step of the world does: at most one machine handles an event, and the
other two stay as they are. -/
namespace Msm8917Common.Agps
open AgpsStateMachine

namespace AgpsManager

/-- What holds of the manager between inputs. -/
structure Sound (manager : AgpsManager) : Prop where
  kinds : ∀ nif machine, manager.nif nif = some machine → (machine.isDs = true ↔ nif = .ds)
  sound : ∀ nif, (manager.connectionAt nif).Sound
  empty : ∀ nif, nif ≠ .ds → (manager.connectionAt nif).state = .released →
    (manager.connectionAt nif).subscribers = []

section Fields
variable (manager : AgpsManager)

theorem nif_setNif (machine : AgpsStateMachine) (nif other : Nif) :
    (manager.setNif machine nif).nif other =
      if other = nif then some machine else manager.nif other := by
  cases nif <;> cases other <;> rfl

theorem connectionAt_setNif (machine : AgpsStateMachine) (nif other : Nif) :
    (manager.setNif machine nif).connectionAt other =
      if other = nif then machine.connection else manager.connectionAt other := by
  unfold connectionAt
  rw [nif_setNif]
  split <;> rfl

theorem connectionAt_of_nif {machine : AgpsStateMachine} {nif : Nif}
    (found : manager.nif nif = some machine) :
    manager.connectionAt nif = machine.connection := by
  simp [connectionAt, found]

/-- No machine that was there is touched, and a new one is unused and of the
kind its field is for. -/
def CreatedOnly (manager after : AgpsManager) : Prop :=
  ∀ nif, after.nif nif = manager.nif nif ∨
    manager.nif nif = none ∧ ∃ machine, after.nif nif = some machine ∧
      machine.connection = ⟨.released, []⟩ ∧ (machine.isDs = true ↔ nif = .ds)

theorem create_creates_only (conf : GpsConf) (callbacks : Callbacks) :
    CreatedOnly manager (manager.createAgpsStateMachines conf callbacks) := by
  intro nif
  unfold createAgpsStateMachines
  cases nif with
  | agnss =>
    cases existing : manager.mAgnssNif with
    | none =>
      by_cases capable : conf.agpsCapable
      · refine .inr ⟨existing, .new .supl, ?_, rfl, by simp [AgpsStateMachine.new]⟩
        simp only [capable, if_true, Option.getD_none]
        split <;> rfl
      · left
        simp [capable, nif, existing]
    | some machine =>
      left
      simp only [Option.getD_some]
      split
      · split <;> simp [nif, existing]
      · simp [nif, existing]
  | internet =>
    cases existing : manager.mInternetNif with
    | none =>
      refine .inr ⟨existing, .new .wwanAny, ?_, rfl, by simp [AgpsStateMachine.new]⟩
      simp only [Option.getD_none]
      split
      · split <;> rfl
      · rfl
    | some machine =>
      left
      simp only [Option.getD_some]
      split
      · split <;> simp [nif, existing]
      · simp [nif, existing]
  | ds =>
    cases existing : manager.mDsNif with
    | none =>
      simp only
      split
      · split
        · exact .inr ⟨existing, .newDs, rfl, rfl, by simp [AgpsStateMachine.newDs]⟩
        · exact .inl (by simp [nif, existing])
      · exact .inl (by simp [nif, existing])
    | some machine =>
      left
      simp only
      split
      · simp [nif, existing]
      · simp [nif, existing]

theorem get_creates_only (conf : GpsConf) (callbacks : Callbacks) (agpsType : AGpsExtType) :
    CreatedOnly manager (manager.getAgpsStateMachine conf callbacks agpsType).1 := by
  have same : CreatedOnly manager manager := fun _ => .inl rfl
  unfold getAgpsStateMachine
  split
  · exact same
  · split
    · split
      · split
        · exact manager.create_creates_only conf callbacks
        · exact same
      · exact same
    · exact same

end Fields

section Created
variable {manager after : AgpsManager}

theorem CreatedOnly.connectionAt (created : CreatedOnly manager after) (nif : Nif) :
    after.connectionAt nif = manager.connectionAt nif := by
  rcases created nif with same | ⟨absent, machine, found, fresh, _⟩
  · simp only [AgpsManager.connectionAt, same]
  · simp [AgpsManager.connectionAt, absent, found, fresh]

theorem CreatedOnly.sound (created : CreatedOnly manager after) (sound : manager.Sound) :
    after.Sound := by
  refine ⟨fun nif machine found => ?_, fun nif => ?_, fun nif base => ?_⟩
  · rcases created nif with same | ⟨_, other, created, _, kind⟩
    · exact sound.kinds nif machine (same.symm.trans found)
    · cases found.symm.trans created
      exact kind
  · rw [created.connectionAt]
    exact sound.sound nif
  · rw [created.connectionAt]
    exact sound.empty nif base

end Created

end AgpsManager

/-- An event that the manager can raise. -/
structure Raised.Valid (manager : AgpsManager) (raised : Raised) : Prop where
  created : manager.CreatedOnly raised.manager
  present : ∃ machine, raised.manager.nif raised.nif = some machine ∧
    raised.machine.connection = machine.connection ∧ raised.machine.isDs = machine.isDs
  admits : raised.machine.connection.Admits raised.machine.mCurrentSubscriber raised.event

section Raise
variable {manager : AgpsManager} {conf : GpsConf} {callbacks : Callbacks} {raised : Raised}

private theorem raise_valid {prepare : AgpsStateMachine → AgpsStateMachine}
    (created : manager.CreatedOnly after) (raises : after.raise nif prepare event = some raised)
    (prepared : ∀ machine, (prepare machine).connection = machine.connection ∧
      (prepare machine).isDs = machine.isDs)
    (admits : ∀ machine, after.nif nif = some machine →
      (prepare machine).connection.Admits (prepare machine).mCurrentSubscriber event) :
    raised.Valid manager := by
  simp only [AgpsManager.raise, Option.map_eq_some_iff] at raises
  obtain ⟨machine, found, rfl⟩ := raises
  exact ⟨created, ⟨machine, found, prepared machine⟩, admits machine found⟩

theorem findSubscriber_spec {nif : Nif}
    (found : manager.findSubscriber connHandle = some (nif, subscriber)) :
    ∃ machine, manager.nif nif = some machine ∧
      machine.getSubscriber connHandle = some subscriber := by
  unfold AgpsManager.findSubscriber at found
  obtain ⟨_, _, held⟩ := List.exists_of_findSome?_eq_some found
  simp only [Option.bind_eq_some_iff, Option.map_eq_some_iff] at held
  obtain ⟨machine, present, _, listed, rfl, rfl⟩ := held
  exact ⟨machine, present, listed⟩

/-- A handle that is not found is listed nowhere. -/
theorem not_listed_of_not_found (absent : manager.findSubscriber connHandle = none) (nif : Nif) :
    ¬ Connection.Listed (manager.connectionAt nif).subscribers connHandle := by
  rintro ⟨subscriber, held, same⟩
  cases present : manager.nif nif with
  | none => simp [AgpsManager.connectionAt, present] at held
  | some machine =>
    rw [manager.connectionAt_of_nif present] at held
    have searched : nif ∈ [Nif.agnss, .internet, .ds] := by cases nif <;> decide
    have nothing := List.findSome?_eq_none_iff.mp absent nif searched
    simp only [present, Option.bind_some, Option.map_eq_none_iff, getSubscriber,
      List.find?_eq_none] at nothing
    exact nothing subscriber held (by simpa using same)

theorem request_raises (raises : manager.raisedByRequest conf callbacks connHandle agpsType =
    some raised) : raised.event = .subscribe ∧
      raised.machine.mCurrentSubscriber = ⟨connHandle, agpsType == .suplEs, false⟩ := by
  simp only [AgpsManager.raisedByRequest, AgpsManager.raise, Option.map_eq_some_iff] at raises
  obtain ⟨_, _, rfl⟩ := raises
  exact ⟨rfl, rfl⟩

theorem release_raises (raises : manager.raisedByRelease connHandle = some raised) :
    raised.event = .unsubscribe ∧
      manager.findSubscriber connHandle = some (raised.nif, raised.machine.mCurrentSubscriber) ∧
        raised.machine.mCurrentSubscriber.mConnHandle = connHandle := by
  simp only [AgpsManager.raisedByRelease, AgpsManager.raise, Option.bind_eq_some_iff,
    Option.map_eq_some_iff] at raises
  obtain ⟨⟨nif, subscriber⟩, found, machine, present, rfl⟩ := raises
  obtain ⟨_, _, listed⟩ := findSubscriber_spec found
  have same : subscriber.mConnHandle = connHandle := by simpa using List.find?_some listed
  exact ⟨rfl, found, same⟩

/-- A release raises its event unless the handle is listed nowhere. -/
theorem release_found (found : manager.findSubscriber connHandle = some (nif, subscriber)) :
    ∃ raised, manager.raisedByRelease connHandle = some raised := by
  obtain ⟨machine, present, _⟩ := findSubscriber_spec found
  refine ⟨⟨manager, nif, machine.setCurrentSubscriber subscriber, .unsubscribe⟩, ?_⟩
  simp [AgpsManager.raisedByRelease, found, AgpsManager.raise, present]

theorem request_valid (raises : manager.raisedByRequest conf callbacks connHandle agpsType =
    some raised) : raised.Valid manager := by
  apply raise_valid (manager.get_creates_only conf callbacks agpsType) raises
  · exact fun _ => ⟨rfl, rfl⟩
  · exact fun _ _ => rfl

theorem release_valid (raises : manager.raisedByRelease connHandle = some raised) :
    raised.Valid manager := by
  simp only [AgpsManager.raisedByRelease, Option.bind_eq_some_iff] at raises
  obtain ⟨⟨nif, subscriber⟩, found, raises⟩ := raises
  refine raise_valid (fun _ => .inl rfl) raises (fun _ => ⟨rfl, rfl⟩) fun machine present => ?_
  obtain ⟨other, same, listed⟩ := findSubscriber_spec found
  cases present.symm.trans same
  exact List.mem_of_find?_eq_some listed

theorem report_valid (raises : manager.raisedByReport conf callbacks agpsType prepare event =
      some raised) (reports : event ≠ .subscribe ∧ event ≠ .unsubscribe)
    (prepared : ∀ machine, (prepare machine).connection = machine.connection ∧
      (prepare machine).isDs = machine.isDs) : raised.Valid manager := by
  refine raise_valid (manager.get_creates_only conf callbacks agpsType) raises prepared fun _ _ => ?_
  cases event with
  | subscribe => exact absurd rfl reports.1
  | unsubscribe => exact absurd rfl reports.2
  | _ => trivial

theorem raised_valid {world : AgpsWorld}
    (raises : world.raised conf callbacks input = some raised) : raised.Valid world.manager := by
  cases input with
  | requestATL => exact request_valid raises
  | releaseATL => exact release_valid raises
  | atlOpenSuccess =>
    apply report_valid raises
    · decide
    · exact fun _ => ⟨rfl, rfl⟩
  | atlOpenFailed =>
    apply report_valid raises
    · decide
    · exact fun _ => ⟨rfl, rfl⟩
  | atlClosed =>
    apply report_valid raises
    · decide
    · exact fun _ => ⟨rfl, rfl⟩
  | dataCallOpened =>
    apply raise_valid (fun _ => .inl rfl) raises
    · exact fun _ => ⟨rfl, rfl⟩
    · exact fun _ _ => trivial
  | dataCallClosed =>
    apply raise_valid (fun _ => .inl rfl) raises
    · exact fun _ => ⟨rfl, rfl⟩
    · exact fun _ _ => trivial
  | retryExpired => cases raises
  | adapterMsg =>
    simp only [AgpsWorld.raised, Option.bind_eq_some_iff] at raises
    obtain ⟨_, _, raises⟩ := raises
    exact request_valid raises

private theorem request_raised (client : Callbacks)
    (raises : manager.raisedByRequest conf client connHandle agpsType = some raised) :
    manager.requestATL conf client connHandle agpsType = raised.deliver client.toDsClient := by
  simp only [AgpsManager.raisedByRequest, AgpsManager.raise, Option.map_eq_some_iff] at raises
  obtain ⟨machine, found, rfl⟩ := raises
  simp only [AgpsManager.requestATL, found]
  rfl

private theorem report_raised
    (report : AgpsStateMachine → AgpsStateMachine × List AgpsOutput) (client : DsClient)
    (raises : manager.raise nif prepare event = some raised)
    (reports : ∀ machine, report machine = (prepare machine).processAgpsEvent client event) :
    manager.reportTo nif report = some (raised.deliver client) := by
  simp only [AgpsManager.raise, Option.map_eq_some_iff] at raises
  obtain ⟨machine, found, rfl⟩ := raises
  simp only [AgpsManager.reportTo, found, Option.map_some, reports]
  rfl

/-- The manager handles the event that is raised, and does nothing else. -/
theorem run_raised {world : AgpsWorld}
    (raises : world.raised conf callbacks input = some raised) :
    world.run conf callbacks input = some (raised.deliver callbacks.toDsClient) := by
  cases input with
  | requestATL => exact congrArg some (request_raised callbacks raises)
  | releaseATL connHandle =>
    simp only [AgpsWorld.raised, AgpsManager.raisedByRelease, AgpsManager.raise,
      Option.bind_eq_some_iff, Option.map_eq_some_iff] at raises
    obtain ⟨⟨nif, subscriber⟩, found, machine, present, rfl⟩ := raises
    simp only [AgpsWorld.run, AgpsManager.releaseATL, found, present]
    rfl
  | atlOpenSuccess => exact report_raised _ callbacks.toDsClient raises fun _ => rfl
  | atlOpenFailed => exact report_raised _ callbacks.toDsClient raises fun _ => rfl
  | atlClosed => exact report_raised _ callbacks.toDsClient raises fun _ => rfl
  | dataCallOpened =>
    have reported := report_raised (·.processAgpsEvent callbacks.toDsClient .granted)
      callbacks.toDsClient raises fun _ => rfl
    simp only [AgpsWorld.run, AgpsManager.reportDataCallOpened, reported, Option.getD_some]
  | dataCallClosed =>
    have reported := report_raised (·.processAgpsEvent callbacks.toDsClient .released)
      callbacks.toDsClient raises fun _ => rfl
    simp only [AgpsWorld.run, AgpsManager.reportDataCallClosed, reported, Option.getD_some]
  | retryExpired => cases raises
  | adapterMsg =>
    simp only [AgpsWorld.raised, Option.bind_eq_some_iff] at raises
    obtain ⟨msg, first, raises⟩ := raises
    obtain ⟨rest, queued⟩ := List.head?_eq_some_iff.mp first
    simp only [AgpsWorld.run, queued, request_raised callbacks raises]

/-- What the manager does with an input that raises no event. -/
structure Idle (world : AgpsWorld) (input : AgpsInput) (manager : AgpsManager)
    (outputs : List AgpsOutput) : Prop where
  created : world.manager.CreatedOnly manager
  requests : requestsConnection outputs = false
  timersStarted : timersStarted outputs = 0
  requested : ∀ connHandle agpsType, input = .requestATL connHandle agpsType →
    connHandle ∈ answered outputs
  processed : input = .adapterMsg → ∀ msg ∈ world.queue.head?, msg.mConnHandle ∈ answered outputs
  retried : input = .retryExpired → world.timers ≠ 0 → ∀ machine, world.manager.mDsNif = some machine →
    outputs = machine.retryCallback

private theorem request_unraised (client : Callbacks)
    (silent : manager.raisedByRequest conf client connHandle agpsType = none) :
    manager.CreatedOnly (manager.requestATL conf client connHandle agpsType).1 ∧
      (manager.requestATL conf client connHandle agpsType).2 =
        [.atlOpenStatus connHandle false none .invalid agpsType] := by
  simp only [AgpsManager.raisedByRequest, AgpsManager.raise, Option.map_eq_none_iff] at silent
  simp only [AgpsManager.requestATL, silent]
  exact ⟨manager.get_creates_only conf client agpsType, trivial⟩

private theorem report_unraised {report : AgpsStateMachine → AgpsStateMachine × List AgpsOutput}
    (silent : manager.raise nif prepare event = none) : manager.reportTo nif report = none := by
  simp only [AgpsManager.raise, Option.map_eq_none_iff] at silent
  simp [AgpsManager.reportTo, silent]

private theorem request_idle (client : Callbacks) {world : AgpsWorld}
    (silent : world.manager.raisedByRequest conf client connHandle agpsType = none)
    (ran : world.manager.requestATL conf client connHandle agpsType = (after, outputs)) :
    world.manager.CreatedOnly after ∧
      outputs = [.atlOpenStatus connHandle false none .invalid agpsType] := by
  obtain ⟨created, refused⟩ := request_unraised client silent
  rw [ran] at created refused
  exact ⟨created, refused⟩

theorem run_unraised {world : AgpsWorld} (silent : world.raised conf callbacks input = none)
    (ran : world.run conf callbacks input = some (after, outputs)) :
    Idle world input after outputs := by
  have same : world.manager.CreatedOnly world.manager := fun _ => .inl rfl
  cases input with
  | requestATL connHandle agpsType =>
    obtain ⟨created, rfl⟩ := request_idle callbacks silent (Option.some.inj ran)
    refine ⟨created, rfl, rfl, ?_, by simp, by simp⟩
    rintro _ _ ⟨⟩
    simp [answered]
  | releaseATL connHandle =>
    simp only [AgpsWorld.raised, AgpsManager.raisedByRelease, AgpsManager.raise,
      Option.bind_eq_none_iff, Option.map_eq_none_iff] at silent
    cases found : world.manager.findSubscriber connHandle with
    | none =>
      simp only [AgpsWorld.run, AgpsManager.releaseATL, found] at ran
      cases ran
      exact ⟨same, rfl, rfl, by simp, by simp, by simp⟩
    | some pair =>
      obtain ⟨machine, present, _⟩ := findSubscriber_spec found
      exact absurd (present.symm.trans (silent pair found)) (by simp)
  | atlOpenSuccess => exact absurd (ran.symm.trans (report_unraised silent)) (by simp)
  | atlOpenFailed => exact absurd (ran.symm.trans (report_unraised silent)) (by simp)
  | atlClosed => exact absurd (ran.symm.trans (report_unraised silent)) (by simp)
  | dataCallOpened =>
    simp only [AgpsWorld.run, AgpsManager.reportDataCallOpened, report_unraised silent] at ran
    cases ran
    exact ⟨same, rfl, rfl, by simp, by simp, by simp⟩
  | dataCallClosed =>
    simp only [AgpsWorld.run, AgpsManager.reportDataCallClosed, report_unraised silent] at ran
    cases ran
    exact ⟨same, rfl, rfl, by simp, by simp, by simp⟩
  | retryExpired =>
    simp only [AgpsWorld.run] at ran
    split at ran
    · next none_runs =>
      cases ran
      exact ⟨same, rfl, rfl, by simp, by simp, fun _ runs => absurd none_runs runs⟩
    · next absent _ =>
      cases ran
      exact ⟨same, rfl, rfl, by simp, by simp,
        fun _ _ machine present => absurd (absent.symm.trans present) (by simp)⟩
    · next machine present _ =>
      cases ran
      have posts : requestsConnection machine.retryCallback = false ∧
          timersStarted machine.retryCallback = 0 := by
        unfold retryCallback
        split <;> exact ⟨rfl, rfl⟩
      exact ⟨same, posts.1, posts.2, by simp, by simp,
        fun _ _ other found => by rw [Option.some.inj (present.symm.trans found)]⟩
  | adapterMsg =>
    cases queued : world.queue with
    | nil =>
      simp only [AgpsWorld.run, queued] at ran
      cases ran
      exact ⟨same, rfl, rfl, by simp, by simp [queued], by simp⟩
    | cons msg rest =>
      simp only [AgpsWorld.raised, queued, List.head?_cons, Option.bind_some] at silent
      simp only [AgpsWorld.run, queued] at ran
      obtain ⟨created, rfl⟩ := request_idle callbacks silent (Option.some.inj ran)
      exact ⟨created, rfl, rfl, by simp, by simp [queued, answered], by simp⟩

private theorem raise_event (raises : manager.raise nif prepare event = some raised) :
    raised.event = event := by
  simp only [AgpsManager.raise, Option.map_eq_some_iff] at raises
  obtain ⟨_, _, rfl⟩ := raises
  rfl

/-- Where an event that subscribes comes from. -/
theorem subscribes_from {world : AgpsWorld}
    (raises : world.raised conf callbacks input = some raised)
    (subscribes : raised.event = .subscribe) :
    (∃ agpsType, input = .requestATL raised.machine.mCurrentSubscriber.mConnHandle agpsType) ∨
      input = .adapterMsg ∧ ∃ msg ∈ world.queue.head?,
        msg.mConnHandle = raised.machine.mCurrentSubscriber.mConnHandle ∧
          world.manager.raisedByRequest conf callbacks msg.mConnHandle msg.mAgpsType =
            some raised := by
  cases input with
  | requestATL connHandle agpsType =>
    obtain ⟨_, current⟩ := request_raises raises
    exact .inl ⟨agpsType, by rw [current]⟩
  | releaseATL => exact absurd (subscribes.symm.trans (release_raises raises).1) (by decide)
  | retryExpired => cases raises
  | adapterMsg =>
    simp only [AgpsWorld.raised, Option.bind_eq_some_iff] at raises
    obtain ⟨msg, first, raises⟩ := raises
    exact .inr ⟨rfl, msg, first, by rw [(request_raises raises).2], raises⟩
  | _ => exact absurd (subscribes.symm.trans (raise_event raises)) (by decide)

/-- Only a release takes a subscriber off. -/
theorem unsubscribes_from {world : AgpsWorld}
    (raises : world.raised conf callbacks input = some raised)
    (unsubscribes : raised.event = .unsubscribe) :
    input = .releaseATL raised.machine.mCurrentSubscriber.mConnHandle := by
  cases input with
  | requestATL => exact absurd (unsubscribes.symm.trans (request_raises raises).1) (by decide)
  | releaseATL => rw [(release_raises raises).2.2]
  | retryExpired => cases raises
  | adapterMsg =>
    simp only [AgpsWorld.raised, Option.bind_eq_some_iff] at raises
    obtain ⟨_, _, raises⟩ := raises
    exact absurd (unsubscribes.symm.trans (request_raises raises).1) (by decide)
  | _ => exact absurd (unsubscribes.symm.trans (raise_event raises)) (by decide)

end Raise

section Translated
variable {machine : AgpsStateMachine}

theorem translated_subscribe : machine.translated event = .subscribe ↔ event = .subscribe := by
  unfold AgpsStateMachine.translated
  split
  · next report =>
    simp only [Bool.and_eq_true, beq_iff_eq] at report
    simp [report.1.2]
  · rfl

theorem translated_unsubscribe : machine.translated event = .unsubscribe ↔ event = .unsubscribe := by
  unfold AgpsStateMachine.translated
  split
  · next report =>
    simp only [Bool.and_eq_true, beq_iff_eq] at report
    simp [report.1.2]
  · rfl

end Translated

section Deliver
variable {manager : AgpsManager} {raised : Raised} (client : DsClient)

/-- The reaction of the machine that handles the event. -/
def Raised.reaction (raised : Raised) (client : DsClient) : Reaction :=
  raised.machine.reaction client raised.event

theorem Raised.Valid.connectionAt (valid : raised.Valid manager) :
    raised.machine.connection = manager.connectionAt raised.nif := by
  obtain ⟨machine, found, same, _⟩ := valid.present
  rw [same, ← valid.created.connectionAt, raised.manager.connectionAt_of_nif found]

theorem Raised.Valid.isDs (sound : manager.Sound) (valid : raised.Valid manager) :
    raised.machine.isDs = true ↔ raised.nif = .ds := by
  obtain ⟨machine, found, _, same⟩ := valid.present
  rw [same]
  exact (valid.created.sound sound).kinds _ _ found

theorem Raised.Valid.handles (sound : manager.Sound) (valid : raised.Valid manager) :
    raised.machine.Handles client raised.event
      (raised.machine.processAgpsEvent client raised.event) := by
  apply processAgpsEvent_handles
  · rw [valid.connectionAt]
    exact sound.sound raised.nif
  · exact valid.admits

/-- The reaction, in terms of the connection before the step. -/
theorem Raised.Valid.reaction_eq (valid : raised.Valid manager) :
    raised.reaction client = (manager.connectionAt raised.nif).step
      (raised.machine.accepts client) raised.machine.mCurrentSubscriber
        (raised.machine.translated raised.event) := by
  rw [← valid.connectionAt]
  rfl

theorem Raised.Valid.admitsTranslated (valid : raised.Valid manager) :
    (manager.connectionAt raised.nif).Admits raised.machine.mCurrentSubscriber
      (raised.machine.translated raised.event) := by
  rw [← valid.connectionAt]
  exact translated_admits raised.machine valid.admits

/-- One machine reacts; the other two stay as they are. -/
theorem deliver_connectionAt (sound : manager.Sound) (valid : raised.Valid manager) (nif : Nif) :
    (raised.deliver client).1.connectionAt nif =
      if nif = raised.nif then (raised.reaction client).after else manager.connectionAt nif := by
  have after := (valid.handles client sound).connection
  simp only [Raised.deliver, AgpsManager.connectionAt_setNif, valid.created.connectionAt, after]
  rfl

theorem deliver_sound (sound : manager.Sound) (valid : raised.Valid manager) :
    (raised.deliver client).1.Sound := by
  have before : raised.machine.connection.Sound := by
    rw [valid.connectionAt]
    exact sound.sound raised.nif
  have handles := valid.handles client sound
  refine ⟨fun nif machine found => ?_, fun nif => ?_, fun nif base => ?_⟩
  · simp only [Raised.deliver, AgpsManager.nif_setNif] at found
    split at found
    · next same =>
      cases found
      rw [handles.isDs, valid.isDs sound, same]
    · exact (valid.created.sound sound).kinds nif machine found
  · rw [deliver_connectionAt client sound valid]
    split
    · exact Connection.step_sound before (translated_admits raised.machine valid.admits) _
    · exact sound.sound nif
  · rw [deliver_connectionAt client sound valid]
    split
    · next same =>
      have plain : raised.machine.isDs = false := by
        simpa using mt (valid.isDs sound).mp (same ▸ base)
      unfold Raised.reaction AgpsStateMachine.reaction
      rw [base_accepts raised.machine client plain]
      apply Connection.step_keeps_released_empty
      rw [valid.connectionAt]
      exact sound.empty raised.nif (same ▸ base)
    · exact sound.empty nif base

end Deliver

namespace AgpsWorld
variable {conf : GpsConf} {world : AgpsWorld} {input : Callbacks × AgpsInput} {raised : Raised}

@[simp] theorem before_manager (input : AgpsInput) :
    (world.before input).manager = world.manager := by
  cases input <;> rfl

theorem before_timers_le (input : AgpsInput) : (world.before input).timers ≤ world.timers := by
  cases input with
  | retryExpired => exact Nat.sub_le _ _
  | _ => exact Nat.le_refl _

/-- A step that raises an event. -/
theorem step_raised (raises : world.raised conf input.1 input.2 = some raised) :
    world.step conf input =
      { world.before input.2 with
        manager := (raised.deliver input.1.toDsClient).1
        queue := (world.before input.2).queue ++ messages (raised.deliver input.1.toDsClient).2
        timers := (world.before input.2).timers +
          timersStarted (raised.deliver input.1.toDsClient).2
        waiting := (world.before input.2).waiting.filter
          (· ∉ answered (raised.deliver input.1.toDsClient).2) } := by
  simp only [step, run_raised raises]

/-- Every step keeps what holds of the manager. -/
theorem step_sound (sound : world.manager.Sound) : (world.step conf input).manager.Sound := by
  cases raises : world.raised conf input.1 input.2 with
  | some raised =>
    rw [step_raised raises]
    exact deliver_sound input.1.toDsClient sound (raised_valid raises)
  | none =>
    unfold step
    cases ran : world.run conf input.1 input.2 with
    | none => exact sound
    | some result => exact (run_unraised raises ran).created.sound sound

theorem connectionAt_unraised (silent : world.raised conf input.1 input.2 = none) (nif : Nif) :
    (world.step conf input).manager.connectionAt nif = world.manager.connectionAt nif := by
  unfold step
  cases ran : world.run conf input.1 input.2 with
  | none => rfl
  | some result => exact (run_unraised silent ran).created.connectionAt nif

theorem connectionAt_raised (sound : world.manager.Sound)
    (raises : world.raised conf input.1 input.2 = some raised) (nif : Nif) :
    (world.step conf input).manager.connectionAt nif =
      if nif = raised.nif then (raised.reaction input.1.toDsClient).after
      else world.manager.connectionAt nif := by
  rw [step_raised raises]
  exact deliver_connectionAt _ sound (raised_valid raises) nif

/-- A subscriber is listed afterwards. -/
theorem subscriber_listed (sound : world.manager.Sound)
    (raises : world.raised conf input.1 input.2 = some raised)
    (subscribes : raised.event = .subscribe) :
    Connection.Listed ((world.step conf input).manager.connectionAt raised.nif).subscribers
      raised.machine.mCurrentSubscriber.mConnHandle := by
  rw [connectionAt_raised sound raises, if_pos rfl, (raised_valid raises).reaction_eq,
    translated_subscribe.mpr subscribes, Connection.subscribe_subscribers, Connection.listed_join]
  exact .inr rfl

theorem start_sound (conf : GpsConf) (callbacks : Callbacks) :
    (start conf callbacks).manager.Sound := by
  refine (AgpsManager.new.create_creates_only conf callbacks).sound ⟨?_, ?_, ?_⟩
  · intro nif machine found
    cases nif <;> cases found
  · intro nif
    cases nif <;> exact Connection.empty_sound
  · intro nif _ _
    cases nif <;> rfl

end AgpsWorld
end Msm8917Common.Agps
