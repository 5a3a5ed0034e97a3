import Msm8917Common.Runs
import Msm8917Common.AgpsWorldProofs

/-! A requested handle is parked somewhere until it is answered: in a machine on
its way up or down, in the message queue, or behind a retry timer. Requests get
lost where a machine takes a handle off one of these places, or meets it in its
list as one that waits for the close, without parking it elsewhere. -/
namespace Msm8917Common.Agps.RequestedHandleProofs
open Runs Connection

/-- A machine in `PENDING` or `RELEASING` serves the handle, or a queued message
names it. -/
def ServedOrQueued (world : AgpsWorld) (handle : Int) : Prop :=
  (∃ nif, (world.manager.connectionAt nif).Busy ∧
      HoldsActive (world.manager.connectionAt nif).subscribers handle) ∨
    ∃ msg ∈ world.queue, msg.mConnHandle = handle

/-- The place a request is parked at. -/
def Parked (world : AgpsWorld) (handle : Int) : Prop :=
  ServedOrQueued world handle ∨
    world.timers ≠ 0 ∧ Listed (world.manager.connectionAt .ds).subscribers handle

/-- No requested handle is lost before it is answered or released. -/
def NobodyLost (world : AgpsWorld) : Prop := ∀ handle ∈ world.waiting, Parked world handle

instance (world : AgpsWorld) (handle : Int) : Decidable (ServedOrQueued world handle) :=
  decidable_of_iff ((¬ ∀ nif, ¬ ((world.manager.connectionAt nif).Busy ∧
      HoldsActive (world.manager.connectionAt nif).subscribers handle)) ∨
    ∃ msg ∈ world.queue, msg.mConnHandle = handle) (by rw [not_forall_not]; rfl)

instance (world : AgpsWorld) : Decidable (NobodyLost world) :=
  inferInstanceAs (Decidable (∀ handle ∈ world.waiting, _ ∨ _))

/-- The machine does not take on its new subscriber: it has the handle as one
that waits for the close, or the data call fails with neither a retry nor a
fallback for the handle. -/
def Swallows (machine : AgpsStateMachine) (client : DsClient) : Prop :=
  let handle := machine.mCurrentSubscriber.mConnHandle
  machine.connection.Busy ∧ HoldsInactive machine.mSubscriberList handle ∨
    machine.isDs = true ∧ machine.connection.state = .released ∧
      (client.callStart machine.mRetries = .refused ∨
        client.callStart machine.mRetries = .handedOver ∧
          ∀ first ∈ firstActive (join machine.mCurrentSubscriber machine.mSubscriberList),
            first.mConnHandle ≠ handle)

section Conditions
variable (conf : GpsConf) (world : AgpsWorld) (input : Callbacks × AgpsInput)

/-- A request that a machine swallows is also parked elsewhere. -/
def SwallowedParked : Prop :=
  ∀ raised, world.raised conf input.1 input.2 = some raised → raised.event = .subscribe →
    Swallows raised.machine input.1.toDsClient →
      let handle := raised.machine.mCurrentSubscriber.mConnHandle
      handle ∈ (world.before input.2).waiting → Parked (world.before input.2) handle ∨
        world.timers ≠ 0 ∧ raised.nif = .ds

/-- The last timer leaves no handle behind: it retries for the first active
subscriber only. -/
def LastTimerParked : Prop :=
  input.2 = .retryExpired → world.timers = 1 → ∀ handle ∈ world.waiting,
    Listed (world.manager.connectionAt .ds).subscribers handle → ServedOrQueued world handle ∨
      ∃ first ∈ firstActive (world.manager.connectionAt .ds).subscribers,
        first.mConnHandle = handle

/-- A handle that the `DSStateMachine` drops while a timer runs is parked
elsewhere. -/
def DroppedParked : Prop :=
  ∀ raised, world.raised conf input.1 input.2 = some raised → raised.nif = .ds →
    world.timers ≠ 0 → ∀ handle ∈ world.waiting,
      Listed (world.manager.connectionAt .ds).subscribers handle →
        (world.manager.connectionAt .ds).Drops raised.event handle →
          ServedOrQueued (world.before input.2) handle

end Conditions

section Step
variable {conf : GpsConf} {world : AgpsWorld} {input : Callbacks × AgpsInput} {raised : Raised}
  {handle : Int}

/-- What a step with an event does to the queue and to the timers. -/
private theorem step_effect (sound : world.manager.Sound)
    (raises : world.raised conf input.1 input.2 = some raised) :
    (world.step conf input).queue = (world.before input.2).queue ++
        (if raised.machine.isDs then ((raised.reaction input.1.toDsClient).dsEffect
          input.1.toDsClient raised.machine.mRetries).messages else []) ∧
      (world.step conf input).timers = (world.before input.2).timers +
        (if raised.machine.isDs then ((raised.reaction input.1.toDsClient).dsEffect
          input.1.toDsClient raised.machine.mRetries).timersStarted else 0) := by
  have effect := ((raised_valid raises).handles input.1.toDsClient sound).effect
  have posted := congrArg DsEffect.messages effect
  have started := congrArg DsEffect.timersStarted effect
  rw [AgpsWorld.step_raised raises]
  refine ⟨congrArg ((world.before input.2).queue ++ ·) (posted.trans ?_),
    congrArg ((world.before input.2).timers + ·) (started.trans ?_)⟩
  · split <;> rfl
  · split <;> rfl

/-- Who still waits after a step was not answered by it. -/
private theorem waiting_iff (sound : world.manager.Sound)
    (raises : world.raised conf input.1 input.2 = some raised) :
    handle ∈ (world.step conf input).waiting ↔ handle ∈ (world.before input.2).waiting ∧
      ∀ notice ∈ (raised.reaction input.1.toDsClient).notices, notice.2.mConnHandle = handle →
        raised.machine.answers notice = false := by
  have answered := ((raised_valid raises).handles input.1.toDsClient sound).answered
  have outputs : (raised.deliver input.1.toDsClient).2 =
    (raised.machine.processAgpsEvent input.1.toDsClient raised.event).2 := rfl
  rw [AgpsWorld.step_raised raises]
  simp only [List.mem_filter, decide_eq_true_eq, outputs, answered, List.mem_map, not_exists,
    not_and]
  refine and_congr_right fun _ => ⟨fun unanswered notice told same => ?_,
    fun unanswered notice told same => ?_⟩
  · by_contra answers
    exact unanswered notice ⟨told, by simpa using answers⟩ same
  · exact absurd told.2 (by simp [unanswered notice told.1 same])

/-- A denial that is not told is handed over. -/
private theorem denied_queued (sound : world.manager.Sound)
    (raises : world.raised conf input.1 input.2 = some raised) {notice : AgpsEvent × AgpsSubscriber}
    (told : notice ∈ (raised.reaction input.1.toDsClient).notices) (denied : notice.1 = .denied)
    (unanswered : raised.machine.answers notice = false) :
    ∃ msg ∈ (world.step conf input).queue, msg.mConnHandle = notice.2.mConnHandle := by
  have ds : raised.machine.isDs = true := by
    simpa [AgpsStateMachine.answers, denied] using unanswered
  refine ⟨⟨notice.2.mConnHandle, .supl⟩, ?_, rfl⟩
  rw [(step_effect sound raises).1, if_pos ds, Reaction.dsEffect, posts_append]
  refine List.mem_append_right _ (List.mem_append_left _ ?_)
  exact List.mem_map.mpr ⟨notice, List.mem_filter.mpr ⟨told, by simp [denied]⟩, rfl⟩

/-- Who is served by a machine or named by a message before an event still is
afterwards, unless it is answered or leaves. -/
private theorem served_kept (sound : world.manager.Sound)
    (raises : world.raised conf input.1 input.2 = some raised)
    (waits : handle ∈ (world.step conf input).waiting)
    (stays : raised.event = .unsubscribe → handle ≠ raised.machine.mCurrentSubscriber.mConnHandle)
    (before : ServedOrQueued (world.before input.2) handle) :
    ServedOrQueued (world.step conf input) handle := by
  have unanswered := ((waiting_iff sound raises).mp waits).2
  rcases before with ⟨nif, busy, active⟩ | ⟨msg, queued, named⟩
  · rw [AgpsWorld.before_manager] at busy active
    by_cases here : nif = raised.nif
    · subst here
      have kept := busy_active_after (raised.machine.accepts input.1.toDsClient)
        (sound.sound raised.nif) (raised_valid raises).admitsTranslated busy active
        fun leaves => stays (translated_unsubscribe.mp leaves)
      rw [← (raised_valid raises).reaction_eq] at kept
      rcases kept with after | ⟨notice, told, granted | denied, named⟩
      · refine .inl ⟨raised.nif, ?_⟩
        rwa [AgpsWorld.connectionAt_raised sound raises, if_pos rfl]
      · exact absurd (unanswered notice told named) (by simp [AgpsStateMachine.answers, granted])
      · obtain ⟨msg, queued, again⟩ := denied_queued sound raises told denied
          (unanswered notice told named)
        exact .inr ⟨msg, queued, again.trans named⟩
    · refine .inl ⟨nif, ?_⟩
      rw [AgpsWorld.connectionAt_raised sound raises, if_neg here]
      exact ⟨busy, active⟩
  · refine .inr ⟨msg, ?_, named⟩
    rw [(step_effect sound raises).1]
    exact List.mem_append_left _ queued

/-- A machine takes no report for another one where it drops somebody. -/
private theorem drops_translated (valid : raised.Valid world.manager) (handle : Int) :
    (world.manager.connectionAt raised.nif).Drops (raised.machine.translated raised.event) handle ↔
      (world.manager.connectionAt raised.nif).Drops raised.event handle := by
  rw [← valid.connectionAt]
  unfold AgpsStateMachine.translated
  split
  · next report =>
    simp only [Bool.and_eq_true, beq_iff_eq] at report
    simp [Drops, AgpsStateMachine.connection, report.2]
  · rfl

/-- Who is parked before an event still is afterwards, unless it is answered,
leaves or is dropped. -/
private theorem parked_kept (sound : world.manager.Sound)
    (raises : world.raised conf input.1 input.2 = some raised)
    (waits : handle ∈ (world.step conf input).waiting)
    (stays : raised.event = .unsubscribe → handle ≠ raised.machine.mCurrentSubscriber.mConnHandle)
    (dropped : raised.nif = .ds → (world.before input.2).timers ≠ 0 →
      Listed (world.manager.connectionAt .ds).subscribers handle →
        (world.manager.connectionAt .ds).Drops raised.event handle →
          ServedOrQueued (world.before input.2) handle)
    (before : Parked (world.before input.2) handle) : Parked (world.step conf input) handle := by
  rcases before with served | ⟨timers, listed⟩
  · exact .inl (served_kept sound raises waits stays served)
  · rw [AgpsWorld.before_manager] at listed
    have runs : (world.step conf input).timers ≠ 0 := by
      rw [(step_effect sound raises).2]
      omega
    by_cases here : raised.nif = .ds
    · have valid := raised_valid raises
      have admitted := valid.admitsTranslated
      have reaction := valid.reaction_eq input.1.toDsClient
      have drops := drops_translated valid handle
      rw [here] at admitted reaction drops
      have kept := Connection.listed_after (raised.machine.accepts input.1.toDsClient)
        (sound.sound .ds) admitted listed fun leaves => stays (translated_unsubscribe.mp leaves)
      rw [← reaction] at kept
      rcases kept with after | ⟨notice, told, denied, named⟩ | drop
      · refine .inr ⟨runs, ?_⟩
        rwa [AgpsWorld.connectionAt_raised sound raises, if_pos here.symm]
      · obtain ⟨msg, queued, again⟩ := denied_queued sound raises told denied
          (((waiting_iff sound raises).mp waits).2 notice told named)
        exact .inl (.inr ⟨msg, queued, again.trans named⟩)
      · exact .inl (served_kept sound raises waits stays
          (dropped here timers listed (drops.mp drop)))
    · refine .inr ⟨runs, ?_⟩
      rwa [AgpsWorld.connectionAt_raised sound raises, if_neg (Ne.symm here)]

section Subscribe
variable (machine : AgpsStateMachine) (client : DsClient)

/-- The connection is up or down, or on its way: what becomes of a subscriber. -/
private theorem subscribe_busy (busy : machine.connection.Busy) :
    machine.reaction client .subscribe =
      ⟨⟨machine.mState, join machine.mCurrentSubscriber machine.mSubscriberList⟩, [], none⟩ := by
  have untranslated : machine.translated .subscribe = .subscribe := translated_subscribe.mpr rfl
  unfold AgpsStateMachine.reaction
  rw [untranslated]
  rcases busy with state | state
  · change machine.mState = .pending at state
    simp only [step, AgpsStateMachine.connection, state]
  · change machine.mState = .releasing at state
    simp only [step, AgpsStateMachine.connection, state]

private theorem subscribe_released (released : machine.connection.state = .released) :
    machine.reaction client .subscribe =
      ⟨⟨if machine.accepts client then .pending else .released,
        join machine.mCurrentSubscriber machine.mSubscriberList⟩, [], some true⟩ := by
  have untranslated : machine.translated .subscribe = .subscribe := translated_subscribe.mpr rfl
  unfold AgpsStateMachine.reaction
  rw [untranslated]
  simp only [step, released]
  rfl

variable {machine} {client}

/-- The effect of a data call that is started for a new subscriber. -/
private theorem start_effect (ds : machine.isDs = true) (sound : machine.connection.Sound)
    (active : machine.mCurrentSubscriber.mIsInactive = false)
    (released : machine.connection.state = .released) :
    ∃ first, firstActive (join machine.mCurrentSubscriber machine.mSubscriberList) = some first ∧
      (machine.reaction client .subscribe).after.state =
        (if client.callStart machine.mRetries = .accepted then .pending else .released) ∧
      (machine.reaction client .subscribe).dsEffect client machine.mRetries =
        (client.callStart machine.mRetries).effect first := by
  obtain ⟨first, found⟩ := Option.isSome_iff_exists.mp
    (firstActive_isSome (joined_active sound active released))
  have accepts := accepts_eq client ds sound active released
  refine ⟨first, found, ?_, ?_⟩
  · simp only [subscribe_released machine client released, accepts, beq_iff_eq]
  · rw [subscribe_released machine client released]
    change .posts [] ++ callEffect _ _ _ _ = _
    simp only [posts_append, List.nil_append, callEffect]
    change firstActive (join machine.mCurrentSubscriber machine.mSubscriberList) = some first at found
    rw [found]

end Subscribe

/-- Where the machine ends up busy with the subscriber active, it is served. -/
private theorem served_parked (sound : world.manager.Sound)
    (raises : world.raised conf input.1 input.2 = some raised)
    (subscribes : raised.event = .subscribe) {state : AgpsState}
    (busy : state = .pending ∨ state = .releasing)
    (after : (raised.machine.reaction input.1.toDsClient .subscribe).after =
      ⟨state, join raised.machine.mCurrentSubscriber raised.machine.mSubscriberList⟩)
    (held : HoldsActive (join raised.machine.mCurrentSubscriber raised.machine.mSubscriberList)
      raised.machine.mCurrentSubscriber.mConnHandle) :
    Parked (world.step conf input) raised.machine.mCurrentSubscriber.mConnHandle := by
  have here := AgpsWorld.connectionAt_raised sound raises raised.nif
  rw [if_pos rfl] at here
  simp only [Raised.reaction, subscribes] at here
  rw [after] at here
  exact .inl (.inl ⟨raised.nif, by rw [here]; exact busy, by rw [here]; exact held⟩)

/-- A machine on its way up or down takes on whom it does not have as inactive. -/
private theorem busy_parked (sound : world.manager.Sound)
    (raises : world.raised conf input.1 input.2 = some raised)
    (subscribes : raised.event = .subscribe)
    (active : raised.machine.mCurrentSubscriber.mIsInactive = false)
    (taken : ¬ Swallows raised.machine input.1.toDsClient)
    (busy : raised.machine.connection.Busy) :
    Parked (world.step conf input) raised.machine.mCurrentSubscriber.mConnHandle := by
  refine served_parked sound raises subscribes busy (by rw [subscribe_busy _ _ busy]; rfl)
    ((holdsActive_join active).mpr ?_)
  by_cases listed : Listed raised.machine.mSubscriberList
      raised.machine.mCurrentSubscriber.mConnHandle
  · exact .inl ((listed_iff.mp listed).resolve_right fun inactive => taken (.inl ⟨busy, inactive⟩))
  · exact .inr ⟨rfl, listed⟩

/-- A machine that starts a data call for its first subscriber serves it, waits for the
retry, or hands it over; it swallows it in the other cases. -/
private theorem started_parked (sound : world.manager.Sound)
    (raises : world.raised conf input.1 input.2 = some raised)
    (subscribes : raised.event = .subscribe)
    (active : raised.machine.mCurrentSubscriber.mIsInactive = false)
    (taken : ¬ Swallows raised.machine input.1.toDsClient)
    (before : raised.machine.connection.Sound) (ds : raised.machine.isDs = true)
    (released : raised.machine.connection.state = .released) :
    Parked (world.step conf input) raised.machine.mCurrentSubscriber.mConnHandle := by
  have effect := step_effect sound raises
  obtain ⟨first, found, after, posts⟩ := start_effect ds before active released
  simp only [Raised.reaction, subscribes] at effect
  rw [ds, if_pos rfl, if_pos rfl, posts] at effect
  cases start : input.1.toDsClient.callStart raised.machine.mRetries with
  | accepted =>
    refine served_parked sound raises subscribes (.inl rfl) ?_ (joined_active before active released)
    rw [subscribe_released _ _ released, accepts_eq _ ds before active released, start]
    rfl
  | retried =>
    refine .inr ⟨?_, ?_⟩
    · rw [effect.2, start]
      simp [CallStart.effect]
    · rw [← ((raised_valid raises).isDs sound).mp ds]
      exact AgpsWorld.subscriber_listed sound raises subscribes
  | handedOver =>
    by_cases named : first.mConnHandle = raised.machine.mCurrentSubscriber.mConnHandle
    · refine .inl (.inr ⟨⟨first.mConnHandle, .supl⟩, ?_, named⟩)
      rw [effect.1, start]
      exact List.mem_append_right _ (List.mem_singleton_self _)
    · refine absurd (.inr ⟨ds, released, .inr ⟨start, ?_⟩⟩) taken
      intro other same
      cases found.symm.trans same
      exact named
  | refused => exact absurd (.inr ⟨ds, released, .inl start⟩) taken

/-- A subscriber that is not swallowed, and not answered, is parked. -/
private theorem taken_on_parked (sound : world.manager.Sound)
    (raises : world.raised conf input.1 input.2 = some raised)
    (subscribes : raised.event = .subscribe)
    (waits : raised.machine.mCurrentSubscriber.mConnHandle ∈ (world.step conf input).waiting)
    (taken : ¬ Swallows raised.machine input.1.toDsClient) :
    Parked (world.step conf input) raised.machine.mCurrentSubscriber.mConnHandle := by
  have valid := raised_valid raises
  have unanswered := ((waiting_iff sound raises).mp waits).2
  have active := valid.admits
  have before : raised.machine.connection.Sound := by
    rw [valid.connectionAt]
    exact sound.sound _
  simp only [Raised.reaction, subscribes] at unanswered active
  cases state : raised.machine.connection.state with
  | pending => exact busy_parked sound raises subscribes active taken (.inl state)
  | releasing => exact busy_parked sound raises subscribes active taken (.inr state)
  | acquired =>
    have acquired : raised.machine.mState = .acquired := state
    have told : (.granted, raised.machine.mCurrentSubscriber) ∈
        (raised.machine.reaction input.1.toDsClient .subscribe).notices := by
      unfold AgpsStateMachine.reaction
      rw [translated_subscribe.mpr rfl]
      simp only [step, AgpsStateMachine.connection, acquired, List.mem_singleton]
    exact absurd (unanswered _ told rfl) (by simp [AgpsStateMachine.answers])
  | released =>
    cases ds : raised.machine.isDs with
    | false =>
      refine served_parked sound raises subscribes (.inl rfl) ?_
        (joined_active before active state)
      rw [subscribe_released _ _ state, AgpsStateMachine.base_accepts _ _ ds, if_pos rfl]
    | true => exact started_parked sound raises subscribes active taken before ds state

/-- A subscriber that is swallowed is told nothing, not served, and in no new
message. -/
private theorem swallowed (sound : raised.machine.connection.Sound)
    (active : raised.machine.mCurrentSubscriber.mIsInactive = false) (client : DsClient)
    (swallows : Swallows raised.machine client) :
    (raised.machine.reaction client .subscribe).notices = [] ∧
      ¬ ((raised.machine.reaction client .subscribe).after.Busy ∧
        HoldsActive (raised.machine.reaction client .subscribe).after.subscribers
          raised.machine.mCurrentSubscriber.mConnHandle) ∧
      ((raised.machine.reaction client .subscribe).dsEffect client
        raised.machine.mRetries).timersStarted = 0 ∧
      ∀ msg ∈ ((raised.machine.reaction client .subscribe).dsEffect client
        raised.machine.mRetries).messages,
          msg.mConnHandle ≠ raised.machine.mCurrentSubscriber.mConnHandle := by
  rcases swallows with ⟨busy, inactive⟩ | ⟨ds, released, fails⟩
  · rw [subscribe_busy _ client busy]
    refine ⟨rfl, fun ⟨_, held⟩ => ?_, rfl, fun _ posted => absurd posted List.not_mem_nil⟩
    rcases (holdsActive_join active).mp held with before | ⟨_, absent⟩
    · exact not_active_of_inactive sound inactive before
    · exact absent (listed_iff.mpr (.inr inactive))
  · obtain ⟨first, found, after, effect⟩ := start_effect ds sound active released
    have stays : (raised.machine.reaction client .subscribe).after.state = .released := by
      rw [after, if_neg]
      rcases fails with refused | ⟨handed, _⟩
      · simp [refused]
      · simp [handed]
    refine ⟨by rw [subscribe_released _ client released], fun ⟨busy, _⟩ => ?_, ?_, ?_⟩
    · simp [Busy, stays] at busy
    · rw [effect]
      rcases fails with refused | ⟨handed, _⟩
      · rw [refused]
        rfl
      · rw [handed]
        rfl
    · rw [effect]
      rcases fails with refused | ⟨handed, other⟩
      · rw [refused]
        simp [CallStart.effect]
      · rw [handed]
        simpa [CallStart.effect] using other first found

/-- Only a release takes a handle off those that wait. -/
private theorem waiting_before (raises : world.raised conf input.1 input.2 = some raised)
    (other : raised.event ≠ .unsubscribe) (waiting : handle ∈ world.waiting) :
    handle ∈ (world.before input.2).waiting := by
  obtain ⟨callbacks, event⟩ := input
  cases event with
  | requestATL => exact List.mem_insert_of_mem waiting
  | releaseATL => exact absurd (release_raises raises).1 other
  | _ => exact waiting

/-- Only a request adds a handle to those that wait, and a release takes its
own handle off. -/
private theorem waited_before (waiting : handle ∈ (world.before input.2).waiting) :
    (handle ∈ world.waiting ∨ ∃ agpsType, input.2 = .requestATL handle agpsType) ∧
      input.2 ≠ .releaseATL handle := by
  obtain ⟨callbacks, event⟩ := input
  cases event with
  | requestATL connHandle agpsType =>
    rcases List.mem_insert_iff.mp waiting with rfl | before
    · exact ⟨.inr ⟨agpsType, rfl⟩, by simp⟩
    · exact ⟨.inl before, by simp⟩
  | releaseATL connHandle =>
    obtain ⟨before, other⟩ := List.mem_filter.mp waiting
    refine ⟨.inl before, fun releases => ?_⟩
    cases releases
    simp at other
  | _ => exact ⟨.inl waiting, by simp⟩

private theorem swallowed_parked (sound : world.manager.Sound)
    (after : NobodyLost (world.step conf input)) : SwallowedParked conf world input := by
  intro raised raises subscribes swallows handle waiting
  have valid := raised_valid raises
  have before : raised.machine.connection.Sound := by
    rw [valid.connectionAt]
    exact sound.sound _
  have active := valid.admits
  rw [subscribes] at active
  obtain ⟨silent, unserved, untimed, unnamed⟩ := swallowed before active input.1.toDsClient swallows
  have effect := step_effect sound raises
  have reaction : raised.reaction input.1.toDsClient =
      raised.machine.reaction input.1.toDsClient .subscribe := by
    rw [Raised.reaction, subscribes]
  have waits : handle ∈ (world.step conf input).waiting := by
    rw [waiting_iff sound raises, reaction, silent]
    exact ⟨waiting, by simp⟩
  rw [reaction] at effect
  rcases after handle waits with (⟨nif, busy, held⟩ | ⟨msg, queued, named⟩) | ⟨timers, listed⟩
  · rw [AgpsWorld.connectionAt_raised sound raises, reaction] at busy held
    split at busy
    · next here =>
      rw [if_pos here] at held
      exact absurd ⟨busy, held⟩ unserved
    · next elsewhere =>
      rw [if_neg elsewhere] at held
      refine .inl (.inl (.inl ⟨nif, ?_⟩))
      rw [AgpsWorld.before_manager]
      exact ⟨busy, held⟩
  · rw [effect.1] at queued
    rcases List.mem_append.mp queued with queued | posted
    · exact .inl (.inl (.inr ⟨msg, queued, named⟩))
    · split at posted
      · exact absurd named (unnamed msg posted)
      · exact absurd posted List.not_mem_nil
  · rw [effect.2, untimed, ite_self, Nat.add_zero] at timers
    have running : world.timers ≠ 0 := by
      have fewer := world.before_timers_le input.2
      omega
    rw [AgpsWorld.connectionAt_raised sound raises] at listed
    split at listed
    · next here => exact .inr ⟨running, here.symm⟩
    · refine .inl (.inr ⟨timers, ?_⟩)
      rwa [AgpsWorld.before_manager]

private theorem dropped_parked (sound : world.manager.Sound)
    (after : NobodyLost (world.step conf input)) : DroppedParked conf world input := by
  intro raised raises here timers handle waiting listed drops
  have valid := raised_valid raises
  have reaction := valid.reaction_eq input.1.toDsClient
  have translated := drops_translated valid handle
  rw [here] at reaction translated
  obtain ⟨gone, silent⟩ : ¬ Listed (raised.reaction input.1.toDsClient).after.subscribers handle ∧
      ∀ notice ∈ (raised.reaction input.1.toDsClient).notices, notice.1 = .released := by
    rw [reaction]
    exact Connection.dropped_after _ (sound.sound .ds) (translated.mpr drops)
  have unsubscribes : raised.event ≠ .unsubscribe := by
    rintro event
    simp [event, Drops] at drops
  have waits : handle ∈ (world.step conf input).waiting := by
    rw [waiting_iff sound raises]
    exact ⟨waiting_before raises unsubscribes waiting,
      fun notice told _ => by simp [AgpsStateMachine.answers, silent notice told]⟩
  rcases after handle waits with (⟨nif, busy, held⟩ | ⟨msg, queued, named⟩) | ⟨_, still⟩
  · rw [AgpsWorld.connectionAt_raised sound raises] at busy held
    split at busy
    · next same =>
      rw [if_pos same] at held
      exact absurd (listed_iff.mpr (.inl held)) gone
    · next elsewhere =>
      rw [if_neg elsewhere] at held
      refine .inl ⟨nif, ?_⟩
      rw [AgpsWorld.before_manager]
      exact ⟨busy, held⟩
  · rw [(step_effect sound raises).1] at queued
    rcases List.mem_append.mp queued with queued | posted
    · exact .inr ⟨msg, queued, named⟩
    · split at posted
      · rw [Reaction.dsEffect, posts_append] at posted
        rcases List.mem_append.mp posted with denied | handed
        · obtain ⟨notice, told, _⟩ := List.mem_map.mp denied
          obtain ⟨told, denied⟩ := List.mem_filter.mp told
          simp [silent notice told] at denied
        · have active := callEffect_names_active _ _ _ msg handed
          rw [named] at active
          exact absurd (listed_iff.mpr (.inl active)) gone
      · exact absurd posted List.not_mem_nil
  · rw [AgpsWorld.connectionAt_raised sound raises, if_pos here.symm] at still
    exact absurd still gone

/-- The retry timer of a `DSStateMachine` expires. -/
private theorem retry_step (expires : input.2 = .retryExpired) (running : world.timers ≠ 0)
    {machine : AgpsStateMachine} (present : world.manager.mDsNif = some machine) :
    world.step conf input = { world with
      queue := world.queue ++ messages machine.retryCallback
      timers := world.timers - 1 } := by
  obtain ⟨callbacks, event⟩ := input
  cases expires
  have ran : world.run conf callbacks .retryExpired =
      some (world.manager, machine.retryCallback) := by
    simp only [AgpsWorld.run, present]
  have posts : timersStarted machine.retryCallback = 0 ∧ answered machine.retryCallback = [] := by
    unfold AgpsStateMachine.retryCallback
    split <;> exact ⟨rfl, rfl⟩
  simp [AgpsWorld.step, ran, AgpsWorld.before, posts.1, posts.2]

/-- A retry is posted for the first active subscriber. -/
private theorem mem_retry (machine : AgpsStateMachine) (handle : Int) :
    (∃ msg ∈ messages machine.retryCallback, msg.mConnHandle = handle) ↔
      ∃ first ∈ firstActive machine.mSubscriberList, first.mConnHandle = handle := by
  change _ ↔ ∃ first ∈ machine.getFirstSubscriber false, first.mConnHandle = handle
  unfold AgpsStateMachine.retryCallback
  cases machine.getFirstSubscriber false with
  | none => simp [messages]
  | some first => simp [messages]

private theorem last_timer_parked (after : NobodyLost (world.step conf input)) :
    LastTimerParked world input := by
  intro expires last handle waiting listed
  cases present : world.manager.mDsNif with
  | none =>
    obtain ⟨subscriber, held, _⟩ := listed
    simp [AgpsManager.connectionAt, AgpsManager.nif, present] at held
  | some machine =>
    have same : (world.manager.connectionAt .ds).subscribers = machine.mSubscriberList := by
      have found : world.manager.nif .ds = some machine := present
      rw [world.manager.connectionAt_of_nif found]
      rfl
    rw [retry_step expires (by omega) present] at after
    rcases after handle waiting with (served | ⟨msg, queued, named⟩) | ⟨timers, _⟩
    · exact .inl (.inl served)
    · rcases List.mem_append.mp queued with queued | posted
      · exact .inl (.inr ⟨msg, queued, named⟩)
      · rw [same]
        exact .inr ((mem_retry machine handle).mp ⟨msg, posted, named⟩)
    · exact absurd (by rw [last]) timers

private theorem step_of_run {result : AgpsManager × List AgpsOutput}
    (ran : world.run conf input.1 input.2 = some result) :
    world.step conf input =
      { world.before input.2 with
        manager := result.1
        queue := (world.before input.2).queue ++ messages result.2
        timers := (world.before input.2).timers + timersStarted result.2
        waiting := (world.before input.2).waiting.filter (· ∉ answered result.2) } := by
  simp only [AgpsWorld.step, ran]

/-- Who is parked when a step without an event starts stays so. -/
private theorem unraised_keeps_parked {result : AgpsManager × List AgpsOutput}
    (silent : world.raised conf input.1 input.2 = none)
    (ran : world.run conf input.1 input.2 = some result)
    (parked : Parked (world.before input.2) handle) : Parked (world.step conf input) handle := by
  have unchanged : ∀ nif, (world.step conf input).manager.connectionAt nif =
      (world.before input.2).manager.connectionAt nif := by
    intro nif
    rw [AgpsWorld.connectionAt_unraised silent, AgpsWorld.before_manager]
  rcases parked with (⟨nif, served⟩ | ⟨msg, queued, named⟩) | ⟨timers, listed⟩
  · exact .inl (.inl ⟨nif, by rwa [unchanged]⟩)
  · refine .inl (.inr ⟨msg, ?_, named⟩)
    rw [step_of_run ran]
    exact List.mem_append_left _ queued
  · refine .inr ⟨?_, by rwa [unchanged]⟩
    rw [step_of_run ran]
    simp only
    omega

/-- A step without an event loses nobody but for the last timer. -/
private theorem unraised_parked (fine : NobodyLost world) (last : LastTimerParked world input)
    (silent : world.raised conf input.1 input.2 = none) : NobodyLost (world.step conf input) := by
  intro handle waits
  cases ran : world.run conf input.1 input.2 with
  | none =>
    have same : world.step conf input = world := by simp only [AgpsWorld.step, ran]
    rw [same] at waits ⊢
    exact fine handle waits
  | some result =>
    have idle := run_unraised silent ran
    have kept : Parked (world.before input.2) handle → Parked (world.step conf input) handle :=
      unraised_keeps_parked silent ran
    have waited : handle ∈ (world.before input.2).waiting ∧ handle ∉ answered result.2 := by
      rw [step_of_run ran] at waits
      simpa only [List.mem_filter, decide_eq_true_eq] using waits
    obtain ⟨callbacks, event⟩ := input
    cases event with
    | requestATL connHandle agpsType =>
      rcases List.mem_insert_iff.mp waited.1 with rfl | before
      · exact absurd (idle.requested _ _ rfl) waited.2
      · exact kept (fine handle before)
    | releaseATL => exact kept (fine handle (List.mem_of_mem_filter waited.1))
    | adapterMsg =>
      rcases fine handle waited.1 with (served | ⟨msg, queued, named⟩) | timed
      · exact kept (.inl (.inl served))
      · cases waits : world.queue with
        | nil =>
          rw [waits] at queued
          exact absurd queued List.not_mem_nil
        | cons first rest =>
          rw [waits] at queued
          rcases List.mem_cons.mp queued with rfl | later
          · have processed := idle.processed rfl msg (by rw [waits]; rfl)
            rw [named] at processed
            exact absurd processed waited.2
          · refine kept (.inl (.inr ⟨msg, ?_, named⟩))
            simpa only [AgpsWorld.before, waits, List.tail_cons] using later
      · exact kept (.inr timed)
    | retryExpired =>
      rcases fine handle waited.1 with served | ⟨timers, listed⟩
      · exact kept (.inl served)
      · by_cases one : world.timers = 1
        · rcases last rfl one handle waited.1 listed with served | retried
          · exact kept (.inl served)
          · cases present : world.manager.mDsNif with
            | none =>
              obtain ⟨first, found, _⟩ := retried
              simp [AgpsManager.connectionAt, AgpsManager.nif, present, firstActive] at found
            | some machine =>
              have found : world.manager.nif .ds = some machine := present
              rw [world.manager.connectionAt_of_nif found] at retried
              obtain ⟨msg, posted, named⟩ := (mem_retry machine handle).mpr retried
              refine .inl (.inr ⟨msg, ?_, named⟩)
              rw [step_of_run ran, idle.retried rfl timers machine present]
              exact List.mem_append_right _ posted
        · refine kept (.inr ⟨?_, listed⟩)
          simp only [AgpsWorld.before]
          omega
    | _ => exact kept (fine handle waited.1)

private theorem before_timers (raises : world.raised conf input.1 input.2 = some raised) :
    (world.before input.2).timers = world.timers := by
  obtain ⟨callbacks, event⟩ := input
  cases event with
  | retryExpired => cases raises
  | _ => rfl

/-- Who does not subscribe was parked before, and the message that is processed
is not for it. -/
private theorem before_parked (raises : world.raised conf input.1 input.2 = some raised)
    (other : ¬ (raised.event = .subscribe ∧
      handle = raised.machine.mCurrentSubscriber.mConnHandle))
    (waited : handle ∈ world.waiting ∨ ∃ agpsType, input.2 = .requestATL handle agpsType)
    (fine : NobodyLost world) :
    handle ∈ world.waiting ∧ Parked (world.before input.2) handle := by
  obtain ⟨callbacks, event⟩ := input
  have before : handle ∈ world.waiting := by
    rcases waited with before | ⟨agpsType, rfl⟩
    · exact before
    · obtain ⟨subscribes, current⟩ := request_raises raises
      exact absurd ⟨subscribes, by rw [current]⟩ other
  refine ⟨before, ?_⟩
  have parked := fine handle before
  cases event with
  | retryExpired => cases raises
  | adapterMsg =>
    simp only [AgpsWorld.raised, Option.bind_eq_some_iff] at raises
    obtain ⟨first, head, raises⟩ := raises
    obtain ⟨subscribes, current⟩ := request_raises raises
    obtain ⟨rest, queue⟩ := List.head?_eq_some_iff.mp head
    rcases parked with (served | ⟨msg, queued, named⟩) | timed
    · exact .inl (.inl served)
    · rw [queue] at queued
      rcases List.mem_cons.mp queued with rfl | later
      · exact absurd ⟨subscribes, by rw [current, named]⟩ other
      · refine .inl (.inr ⟨msg, ?_, named⟩)
        simpa only [AgpsWorld.before, queue, List.tail_cons] using later
    · exact .inr timed
  | _ => exact parked

private theorem step_decided (sound : world.manager.Sound) (fine : NobodyLost world) :
    NobodyLost (world.step conf input) ↔ SwallowedParked conf world input ∧
      LastTimerParked world input ∧ DroppedParked conf world input := by
  constructor
  · exact fun after => ⟨swallowed_parked sound after, last_timer_parked after,
      dropped_parked sound after⟩
  · rintro ⟨swallowed, last, dropped⟩
    cases raises : world.raised conf input.1 input.2 with
    | none => exact unraised_parked fine last raises
    | some raised =>
      intro handle waits
      obtain ⟨waiting, _⟩ := (waiting_iff sound raises).mp waits
      obtain ⟨waited, unreleased⟩ := waited_before waiting
      have stays : raised.event = .unsubscribe →
          handle ≠ raised.machine.mCurrentSubscriber.mConnHandle := by
        rintro unsubscribes rfl
        exact unreleased (unsubscribes_from raises unsubscribes)
      by_cases subscriber : raised.event = .subscribe ∧
          handle = raised.machine.mCurrentSubscriber.mConnHandle
      · obtain ⟨subscribes, rfl⟩ := subscriber
        by_cases swallows : Swallows raised.machine input.1.toDsClient
        · rcases swallowed raised raises subscribes swallows waiting with parked | ⟨timers, here⟩
          · refine parked_kept sound raises waits stays (fun _ _ _ drops => ?_) parked
            simp [subscribes, Drops] at drops
          · refine .inr ⟨?_, ?_⟩
            · rw [(step_effect sound raises).2, before_timers raises]
              omega
            · rw [← here]
              exact AgpsWorld.subscriber_listed sound raises subscribes
        · exact taken_on_parked sound raises subscribes waits swallows
      · have before := before_parked raises subscriber waited fine
        refine parked_kept sound raises waits stays (fun here timers listed drops => ?_) before.2
        rw [before_timers raises] at timers
        exact dropped raised raises here timers handle before.1 listed drops

end Step

/-- Over any interleaving, no requested handle is lost exactly if every handle
that is swallowed, left behind by the last timer, or dropped by the close of the
data call is parked elsewhere. -/
theorem nobody_lost_iff_parked_elsewhere (conf : GpsConf) (callbacks : Callbacks)
    (inputs : List (Callbacks × AgpsInput)) :
    (∀ world ∈ states (AgpsWorld.step conf) (.start conf callbacks) inputs, NobodyLost world) ↔
      ∀ taken ∈ steps (AgpsWorld.step conf) (.start conf callbacks) inputs,
        SwallowedParked conf taken.1 taken.2 ∧ LastTimerParked taken.1 taken.2 ∧
          DroppedParked conf taken.1 taken.2 := by
  have keeps : ∀ (world : AgpsWorld) (input : Callbacks × AgpsInput),
      world.manager.Sound → (world.step conf input).manager.Sound :=
    fun _ _ sound => AgpsWorld.step_sound sound
  have nobody : NobodyLost (.start conf callbacks) :=
    fun _ waiting => absurd waiting List.not_mem_nil
  exact always_iff_each_step keeps (fun _ _ => step_decided) inputs
    (AgpsWorld.start_sound conf callbacks) nobody

/-- An error that the state machine does not know, such as the one an engine
without a data service returns, is followed by neither a retry nor a fallback. -/
theorem unknown_error_loses_the_request :
    let conf : GpsConf := ⟨GpsConf.capabilityMsb, true⟩
    let failing : Callbacks := ⟨⟨some (-1), true, true⟩, some 0⟩
    ∃ world ∈ states (AgpsWorld.step conf) (.start conf failing)
      [(failing, AgpsInput.requestATL 1 .suplEs)], ¬ NobodyLost world := by
  decide

end Msm8917Common.Agps.RequestedHandleProofs
