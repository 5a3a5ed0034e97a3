import Msm8917Common.Runs
import Msm8917Common.AgpsWorldProofs

/-! A handle that the modem has released stays released, as long as the release
reaches every machine that serves it and no queued message brings it back. A
release stops at the first machine that lists the handle, and it cancels
neither a fallback nor a retry. -/
namespace Msm8917Common.Agps.ReleasedHandleProofs
open Runs Connection

/-- A released handle is listed by no machine, unless it waits for the close. -/
def StaysReleased (world : AgpsWorld) : Prop :=
  ∀ handle ∈ world.released, ∀ nif, ¬ HoldsActive (world.manager.connectionAt nif).subscribers handle

instance (world : AgpsWorld) : Decidable (StaysReleased world) :=
  inferInstanceAs (Decidable (∀ handle ∈ world.released, _))

section Events
variable (conf : GpsConf) (world : AgpsWorld) (input : Callbacks × AgpsInput)

/-- A step lists no released handle that was not listed before. -/
def NoneReinserted : Prop :=
  ∀ handle ∈ (world.step conf input).released, ∀ nif,
    Listed ((world.step conf input).manager.connectionAt nif).subscribers handle →
      Listed (world.manager.connectionAt nif).subscribers handle

instance : Decidable (NoneReinserted conf world input) :=
  inferInstanceAs (Decidable (∀ handle ∈ (world.step conf input).released, _))

/-- A step requests a connection on behalf of a handle: the one that subscribes,
or one that is active where the connection is requested. -/
def RequestsFor (handle : Int) : Prop :=
  requestsConnection (world.outputs conf input) = true ∧
    ∃ raised, world.raised conf input.1 input.2 = some raised ∧
      (raised.event = .subscribe ∧ raised.machine.mCurrentSubscriber.mConnHandle = handle ∨
        HoldsActive ((world.step conf input).manager.connectionAt raised.nif).subscribers handle)

instance (handle : Int) : Decidable (RequestsFor conf world input handle) :=
  inferInstanceAs (Decidable (_ ∧ ∃ raised ∈ world.raised conf input.1 input.2, _))

/-- No connection is requested on behalf of a released handle. -/
def NoneRequestedFor : Prop :=
  ∀ handle ∈ (world.step conf input).released, ¬ RequestsFor conf world input handle

instance : Decidable (NoneRequestedFor conf world input) :=
  inferInstanceAs (Decidable (∀ handle ∈ (world.step conf input).released, _))

/-- A release finds every machine where the handle is active, and none of them
in `RELEASED`. -/
def ReleaseReaches : Prop :=
  ∀ handle, input.2 = .releaseATL handle →
    ∀ nif, HoldsActive (world.manager.connectionAt nif).subscribers handle →
      (∃ subscriber, world.manager.findSubscriber handle = some (nif, subscriber)) ∧
        (world.manager.connectionAt nif).state ≠ .released

/-- A queued message for a released handle finds no machine, or one that lists
the handle. -/
def MessageBringsNobodyBack : Prop :=
  input.2 = .adapterMsg → ∀ msg ∈ world.queue.head?, msg.mConnHandle ∈ world.released →
    ∀ raised, world.manager.raisedByRequest conf input.1 msg.mConnHandle msg.mAgpsType =
      some raised → Listed raised.machine.mSubscriberList msg.mConnHandle

end Events

section Step
variable {conf : GpsConf} {world : AgpsWorld} {input : Callbacks × AgpsInput} {raised : Raised}

/-- Who is active after a step was active before, or subscribes. -/
private theorem active_after_step (sound : world.manager.Sound)
    (raises : world.raised conf input.1 input.2 = some raised)
    (active : HoldsActive ((world.step conf input).manager.connectionAt nif).subscribers handle) :
    HoldsActive (world.manager.connectionAt nif).subscribers handle ∨
      nif = raised.nif ∧ raised.event = .subscribe ∧
        handle = raised.machine.mCurrentSubscriber.mConnHandle ∧
          ¬ Listed (world.manager.connectionAt nif).subscribers handle := by
  rw [AgpsWorld.connectionAt_raised sound raises] at active
  split at active
  · next here =>
    subst here
    rw [(raised_valid raises).reaction_eq] at active
    rcases active_before (sound.sound _) (raised_valid raises).admitsTranslated active with
      before | ⟨subscribes, new⟩
    · exact .inl before
    · exact .inr ⟨rfl, translated_subscribe.mp subscribes, new⟩
  · exact .inl active

/-- Who is listed after a step was listed before, or subscribes. -/
private theorem listed_after_step (sound : world.manager.Sound)
    (raises : world.raised conf input.1 input.2 = some raised)
    (listed : Listed ((world.step conf input).manager.connectionAt nif).subscribers handle) :
    Listed (world.manager.connectionAt nif).subscribers handle ∨
      nif = raised.nif ∧ raised.event = .subscribe ∧
        handle = raised.machine.mCurrentSubscriber.mConnHandle := by
  rw [AgpsWorld.connectionAt_raised sound raises] at listed
  split at listed
  · next here =>
    subst here
    rw [(raised_valid raises).reaction_eq] at listed
    by_cases subscribes : raised.event = .subscribe
    · rw [translated_subscribe.mpr subscribes, subscribe_subscribers, listed_join] at listed
      rcases listed with before | same
      · exact .inl before
      · exact .inr ⟨rfl, subscribes, same⟩
    · exact .inl ((listed_before (sound.sound _) (raised_valid raises).admitsTranslated
        (mt translated_subscribe.mp subscribes)).2 handle listed)
  · exact .inl listed

private theorem step_released : (world.step conf input).released = (world.before input.2).released := by
  unfold AgpsWorld.step
  cases ran : world.run conf input.1 input.2 with
  | some result => rfl
  | none =>
    cases event : input.2 with
    | requestATL => rw [event] at ran; cases ran
    | releaseATL => rw [event] at ran; cases ran
    | _ => rfl

/-- Who subscribes is not released, or a message brings it back. -/
private theorem subscriber_released (raises : world.raised conf input.1 input.2 = some raised)
    (subscribes : raised.event = .subscribe)
    (kept : MessageBringsNobodyBack conf world input)
    (released : raised.machine.mCurrentSubscriber.mConnHandle ∈ (world.step conf input).released) :
    raised.machine.mCurrentSubscriber.mConnHandle ∈ world.released ∧
      Listed (world.manager.connectionAt raised.nif).subscribers
        raised.machine.mCurrentSubscriber.mConnHandle := by
  rw [step_released] at released
  rcases subscribes_from raises subscribes with ⟨_, requests⟩ | ⟨processes, msg, first, same, raised⟩
  · simp [requests, AgpsWorld.before] at released
  · have held : msg.mConnHandle ∈ world.released := by
      rw [same]
      simpa [processes, AgpsWorld.before] using released
    have listed := kept processes msg first held _ raised
    rw [← same, ← (raised_valid raises).connectionAt]
    exact ⟨held, listed⟩

/-- A handle that a step has released was released before, or is released by
it. -/
private theorem released_before (released : handle ∈ (world.step conf input).released) :
    handle ∈ world.released ∨ input.2 = .releaseATL handle := by
  rw [step_released] at released
  cases event : input.2 with
  | requestATL =>
    simp only [event, AgpsWorld.before, List.mem_filter] at released
    exact .inl released.1
  | releaseATL connHandle =>
    simp only [event, AgpsWorld.before, List.mem_insert_iff] at released
    rcases released with rfl | before
    · exact .inr rfl
    · exact .inl before
  | _ => simp only [event, AgpsWorld.before] at released; exact .inl released

private theorem stays_released (sound : world.manager.Sound) (fine : StaysReleased world)
    (reaches : ReleaseReaches world input) (kept : MessageBringsNobodyBack conf world input) :
    StaysReleased (world.step conf input) := by
  intro handle released nif active
  cases raises : world.raised conf input.1 input.2 with
  | none =>
    rw [AgpsWorld.connectionAt_unraised raises] at active
    rcases released_before released with before | releases
    · exact fine handle before nif active
    · obtain ⟨⟨subscriber, found⟩, _⟩ := reaches handle releases nif active
      obtain ⟨raised, raisedNow⟩ := release_found found
      rw [releases] at raises
      exact absurd (raises.symm.trans raisedNow) (by simp)
  | some raised =>
    rcases active_after_step sound raises active with before | ⟨rfl, subscribes, rfl, absent⟩
    · rcases released_before released with already | releases
      · exact fine handle already nif before
      · -- The release reaches this machine, which then holds the handle no longer.
        obtain ⟨⟨subscriber, found⟩, connected⟩ := reaches handle releases nif before
        have raisesRelease : world.manager.raisedByRelease handle = some raised := by
          rw [releases] at raises
          exact raises
        obtain ⟨unsubscribes, foundAt, same⟩ := release_raises raisesRelease
        obtain ⟨rfl, rfl⟩ := Prod.mk.inj (Option.some.inj (found.symm.trans foundAt))
        have member := (raised_valid raises).admitsTranslated
        rw [AgpsWorld.connectionAt_raised sound raises, if_pos rfl, (raised_valid raises).reaction_eq,
          translated_unsubscribe.mpr unsubscribes, ← same,
          unsubscribed_is_active_iff (sound.sound _)] at active
        · exact connected active.1
        · rwa [translated_unsubscribe.mpr unsubscribes] at member
    · exact absent (subscriber_released raises subscribes kept released).2

private theorem nobody_requested (sound : world.manager.Sound) (fine : StaysReleased world)
    (after : StaysReleased (world.step conf input)) (kept : MessageBringsNobodyBack conf world input) :
    NoneRequestedFor conf world input := by
  rintro handle released ⟨requests, raised, raises, ⟨subscribes, rfl⟩ | active⟩
  · obtain ⟨already, listed⟩ := subscriber_released raises subscribes kept released
    have valid := raised_valid raises
    have called := (valid.handles input.1.toDsClient sound).requests (by
      rw [AgpsWorld.outputs, run_raised raises] at requests
      exact requests)
    have inReleased : (world.manager.connectionAt raised.nif).state = .released := by
      change (raised.reaction input.1.toDsClient).call = some true at called
      rw [(raised_valid raises).reaction_eq, translated_subscribe.mpr subscribes] at called
      exact subscriber_requests_in_released called
    rcases listed_iff.mp listed with active | inactive
    · exact fine _ already _ active
    · exact (sound.sound raised.nif).released inReleased _ inactive
  · exact after handle released raised.nif active

private theorem nobody_reinserted (sound : world.manager.Sound)
    (kept : MessageBringsNobodyBack conf world input) : NoneReinserted conf world input := by
  intro handle released nif listed
  cases raises : world.raised conf input.1 input.2 with
  | none => rwa [AgpsWorld.connectionAt_unraised raises] at listed
  | some raised =>
    rcases listed_after_step sound raises listed with before | ⟨rfl, subscribes, rfl⟩
    · exact before
    · exact (subscriber_released raises subscribes kept released).2

private theorem release_reaches (sound : world.manager.Sound)
    (after : StaysReleased (world.step conf input)) : ReleaseReaches world input := by
  intro handle releases nif active
  have released : handle ∈ (world.step conf input).released := by
    rw [step_released, releases]
    exact List.mem_insert_self
  have gone := after handle released nif
  cases found : world.manager.findSubscriber handle with
  | none => exact absurd (listed_iff.mpr (.inl active)) (not_listed_of_not_found found nif)
  | some pair =>
    obtain ⟨first, subscriber⟩ := pair
    obtain ⟨raised, raisesRelease⟩ := release_found found
    have raises : world.raised conf input.1 input.2 = some raised := by
      rw [releases]
      exact raisesRelease
    obtain ⟨unsubscribes, foundAt, same⟩ := release_raises raisesRelease
    obtain ⟨rfl, rfl⟩ := Prod.mk.inj (Option.some.inj (found.symm.trans foundAt))
    have member := (raised_valid raises).admitsTranslated
    rw [translated_unsubscribe.mpr unsubscribes] at member
    rw [AgpsWorld.connectionAt_raised sound raises] at gone
    split at gone
    · next here =>
      subst here
      refine ⟨⟨_, rfl⟩, fun inReleased => gone ?_⟩
      rw [(raised_valid raises).reaction_eq, translated_unsubscribe.mpr unsubscribes, ← same,
        unsubscribed_is_active_iff (sound.sound _) member, same]
      exact ⟨inReleased, active⟩
    · exact absurd active gone

private theorem message_brings_nobody (sound : world.manager.Sound)
    (none : NoneReinserted conf world input) : MessageBringsNobodyBack conf world input := by
  intro processes msg first released raised raisedByMsg
  have raises : world.raised conf input.1 input.2 = some raised := by
    rw [processes]
    simp only [AgpsWorld.raised, Option.mem_def.mp first, Option.bind_some, raisedByMsg]
  obtain ⟨subscribes, current⟩ := request_raises raisedByMsg
  have listed := AgpsWorld.subscriber_listed sound raises subscribes
  have valid := (raised_valid raises).connectionAt
  rw [current] at listed
  have before := none msg.mConnHandle (by
    rw [step_released, processes]
    exact released) raised.nif listed
  rw [← valid] at before
  exact before

private theorem step_decided (sound : world.manager.Sound) (fine : StaysReleased world) :
    StaysReleased (world.step conf input) ∧
        NoneReinserted conf world input ∧ NoneRequestedFor conf world input ↔
      ReleaseReaches world input ∧ MessageBringsNobodyBack conf world input := by
  constructor
  · rintro ⟨after, reinserted, _⟩
    exact ⟨release_reaches sound after, message_brings_nobody sound reinserted⟩
  · rintro ⟨reaches, kept⟩
    have after := stays_released sound fine reaches kept
    exact ⟨after, nobody_reinserted sound kept, nobody_requested sound fine after kept⟩

end Step

/-- Over any interleaving, a released handle is nowhere active, is never
listed again and has no connection requested for it, exactly if every release
finds all machines where its handle is active, none of them in `RELEASED`, and
every queued message for a released handle finds no machine or one that lists
the handle. -/
theorem released_stays_released_iff (conf : GpsConf) (callbacks : Callbacks)
    (inputs : List (Callbacks × AgpsInput)) :
    ((∀ world ∈ states (AgpsWorld.step conf) (.start conf callbacks) inputs, StaysReleased world) ∧
        ∀ taken ∈ steps (AgpsWorld.step conf) (.start conf callbacks) inputs,
          NoneReinserted conf taken.1 taken.2 ∧ NoneRequestedFor conf taken.1 taken.2) ↔
      ∀ taken ∈ steps (AgpsWorld.step conf) (.start conf callbacks) inputs,
        ReleaseReaches taken.1 taken.2 ∧ MessageBringsNobodyBack conf taken.1 taken.2 := by
  have keeps : ∀ (world : AgpsWorld) (input : Callbacks × AgpsInput),
      world.manager.Sound → (world.step conf input).manager.Sound :=
    fun _ _ sound => AgpsWorld.step_sound sound
  have nobody : StaysReleased (.start conf callbacks) :=
    fun _ released => absurd released List.not_mem_nil
  exact always_with_events_iff_each_step keeps (fun _ _ => step_decided) inputs
    (AgpsWorld.start_sound conf callbacks) nobody

/-- The release finds the handle in the `DSStateMachine` and leaves its
fallback in the queue, which then opens a connection for normal SUPL. -/
theorem fallback_brings_the_released_handle_back :
    let conf : GpsConf := ⟨GpsConf.capabilityMsb, true⟩
    let unsupported : Callbacks := ⟨⟨some errUnsupported, true, true⟩, some 0⟩
    let inputs := [(unsupported, AgpsInput.requestATL 1 .suplEs), (unsupported, .releaseATL 1),
      (unsupported, .adapterMsg)]
    (∃ world ∈ states (AgpsWorld.step conf) (.start conf unsupported) inputs,
        ¬ StaysReleased world) ∧
      ∃ taken ∈ steps (AgpsWorld.step conf) (.start conf unsupported) inputs,
        ¬ NoneReinserted conf taken.1 taken.2 ∧ ¬ NoneRequestedFor conf taken.1 taken.2 := by
  decide

end Msm8917Common.Agps.ReleasedHandleProofs
