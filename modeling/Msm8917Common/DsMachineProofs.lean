import Msm8917Common.Runs
import Msm8917Common.DsMachine

/-! `DSStateMachine` with its retry timers and the messages it posts. A data
call that fails to start leaves its subscriber listed in `RELEASED`, and the
restart after a release goes to `PENDING` whatever the start returns. -/
namespace Msm8917Common.Agps.DsMachineProofs
open Runs AgpsStateMachine

/-- The machine, the `AgpsMsgRequestATL` that are queued, how many retry timers
run, and whether a start was accepted that no report has answered and no stop
has ended. -/
structure World where
  machine : AgpsStateMachine
  queue : List AgpsMsgRequestATL
  timers : Nat
  calling : Bool
  deriving DecidableEq

def World.start : World := ⟨.newDs, [], 0, false⟩

/-- What happens next: a request or release of the modem, a report of the data
service, the expiry of a running timer, or the processing of the next queued
message. -/
inductive Input where
  | requestATL (connHandle : Int)
  | releaseATL (connHandle : Int)
  | dataCallOpened
  | dataCallClosed
  | retryExpired
  | adapterMsg
  deriving DecidableEq, Repr

/-- The world after the machine has run. -/
def World.emit (world : World) (result : AgpsStateMachine × List AgpsOutput) : World where
  machine := result.1
  queue := world.queue ++ messages result.2
  timers := world.timers + timersStarted result.2
  calling := callAccepted result.2 || world.calling && !callStopped result.2

/-- The world when the machine runs: a report answers the start, a timer that
expires is gone, and so is the message that is processed. -/
def World.before (world : World) : Input → World
  | .dataCallOpened => { world with calling := false }
  | .dataCallClosed => { world with calling := false }
  | .retryExpired => { world with timers := world.timers - 1 }
  | .adapterMsg => { world with queue := world.queue.tail }
  | _ => world

/-- What the machine does with an input. A message for normal SUPL goes to
another machine. -/
def result (world : World) (client : DsClient) : Input → AgpsStateMachine × List AgpsOutput
  | .requestATL connHandle => world.machine.requestATL client connHandle .suplEs
  | .releaseATL connHandle =>
    match world.machine.getSubscriber connHandle with
    | none => (world.machine, [])
    | some subscriber => world.machine.releaseATL client subscriber
  | .dataCallOpened => world.machine.processAgpsEvent client .granted
  | .dataCallClosed => world.machine.processAgpsEvent client .released
  | .retryExpired =>
    (world.machine, if world.timers = 0 then [] else world.machine.retryCallback)
  | .adapterMsg =>
    match world.queue with
    | [] => (world.machine, [])
    | msg :: _ =>
      if msg.mAgpsType = .suplEs then world.machine.requestATL client msg.mConnHandle .suplEs
      else (world.machine, [])

def step (world : World) (input : DsClient × Input) : World :=
  (world.before input.2).emit (result world input.1 input.2)

/-- A message that asks the machine to try again is queued. -/
def RetryQueued (queue : List AgpsMsgRequestATL) : Prop :=
  ∃ msg ∈ queue, msg.mAgpsType = .suplEs

instance : Decidable (RetryQueued queue) :=
  inferInstanceAs (Decidable (∃ msg ∈ queue, _))

/-- In `RELEASED`, with no timer running and no retry queued, nobody is
listed. -/
def NobodyForgotten (world : World) : Prop :=
  world.machine.mState = .released → world.timers = 0 → ¬ RetryQueued world.queue →
    world.machine.mSubscriberList = []

instance : Decidable (NobodyForgotten world) :=
  inferInstanceAs (Decidable (_ → _ → _ → _))

/-- Whose requests an input can make fail: the subscriber that requests the
call, or, for a report, those that were waiting. -/
def requesters (world : World) : Input → List Int
  | .requestATL connHandle => [connHandle]
  | .adapterMsg => world.queue.head?.toList.map (·.mConnHandle)
  | _ => world.machine.mSubscriberList.map (·.mConnHandle)

/-- A fallback to normal SUPL names a handle whose request failed. -/
def FallbackNamesRequester (world : World) (input : DsClient × Input) : Prop :=
  ∀ msg ∈ messages (result world input.1 input.2).2, msg.mAgpsType = .supl →
    msg.mConnHandle ∈ requesters world input.2

instance : Decidable (FallbackNamesRequester world input) :=
  inferInstanceAs (Decidable (∀ msg ∈ _, _ → _))

/-- The handle an input requests a data call for. -/
def requested (world : World) : Input → Option Int
  | .requestATL connHandle => some connHandle
  | .adapterMsg =>
    match world.queue with
    | [] => none
    | msg :: _ => if msg.mAgpsType = .suplEs then some msg.mConnHandle else none
  | _ => none

/-- A request that finds `RELEASED` starts its call, or is retried after a
timer; if not, another timer runs or a retry is queued, and a call that is
handed over to normal SUPL was for the first active subscriber. -/
def StartKept (world : World) (input : DsClient × Input) : Prop :=
  ∀ handle, requested world input.2 = some handle → world.machine.mState = .released →
    input.1.callStart world.machine.mRetries = .accepted ∨
      input.1.callStart world.machine.mRetries = .retried ∨
        (world.timers ≠ 0 ∨ RetryQueued (world.before input.2).queue) ∧
          (input.1.callStart world.machine.mRetries = .handedOver →
            ∀ first, world.machine.getFirstSubscriber false = some first →
              first.mConnHandle = handle)

/-- In `PENDING`, a data call is on its way or a retry is outstanding. -/
def WaitsForSomething (world : World) : Prop :=
  world.machine.mState = .pending → world.calling = true ∨ world.timers ≠ 0 ∨ RetryQueued world.queue

instance : Decidable (WaitsForSomething world) :=
  inferInstanceAs (Decidable (_ → _))

/-- A report that the call is closed, where somebody waits for the next one,
starts that call, has it retried, or finds a retry outstanding; and a retry that
is processed in `PENDING` is not the last thing to wait for. -/
def RestartKept (world : World) (input : DsClient × Input) : Prop :=
  (input.2 = .dataCallClosed → world.machine.mState = .releasing →
    world.machine.anyActiveSubscribers = true →
      input.1.callStart world.machine.mRetries = .accepted ∨
        input.1.callStart world.machine.mRetries = .retried ∨
          world.timers ≠ 0 ∨ RetryQueued world.queue) ∧
  (input.2 = .adapterMsg → world.machine.mState = .pending →
    requested world input.2 ≠ none →
      world.calling = true ∨ world.timers ≠ 0 ∨ RetryQueued world.queue.tail)

/-- What every run has. -/
structure Inv (world : World) : Prop where
  ds : world.machine.isDs = true
  sound : world.machine.connection.Sound

/-- The event an input raises at the machine, and the subscriber it is about. -/
def raised (world : World) : Input → Option (AgpsSubscriber × AgpsEvent)
  | .requestATL connHandle => some (⟨connHandle, true, false⟩, .subscribe)
  | .releaseATL connHandle => (world.machine.getSubscriber connHandle).map (·, .unsubscribe)
  | .dataCallOpened => some (world.machine.mCurrentSubscriber, .granted)
  | .dataCallClosed => some (world.machine.mCurrentSubscriber, .released)
  | .retryExpired => none
  | .adapterMsg =>
    match world.queue with
    | [] => none
    | msg :: _ =>
      if msg.mAgpsType = .suplEs then some (⟨msg.mConnHandle, true, false⟩, .subscribe) else none

/-- The reaction of the machine to the event. -/
def reaction (world : World) (client : DsClient) (current : AgpsSubscriber) (event : AgpsEvent) :
    Reaction :=
  dsReaction (world.machine.setCurrentSubscriber current) client event

section Runs
variable {world : World} {client : DsClient} {current : AgpsSubscriber} {event : AgpsEvent}

private theorem raised_admits (raises : raised world input = some (current, event)) :
    world.machine.connection.Admits current event := by
  cases input with
  | releaseATL connHandle =>
    simp only [raised, Option.map_eq_some_iff] at raises
    obtain ⟨subscriber, found, same⟩ := raises
    cases same
    unfold getSubscriber at found
    exact List.mem_of_find?_eq_some found
  | adapterMsg =>
    unfold raised at raises
    grind [Connection.Admits]
  | retryExpired => cases raises
  | _ => cases raises; trivial

private theorem translated_other (world : World) (current : AgpsSubscriber)
    (other : event ≠ .subscribe) :
    (world.machine.setCurrentSubscriber current).translated event ≠ .subscribe := by
  unfold translated
  split
  · decide
  · exact other

/-- The result of an input that raises an event. -/
private theorem result_raised (inv : Inv world) (client : DsClient)
    (raises : raised world input = some (current, event)) :
    (result world client input).1.isDs = true ∧
      (result world client input).1.connection = (reaction world client current event).after ∧
      dsEffect (result world client input).2 =
        (reaction world client current event).dsEffect client world.machine.mRetries := by
  have ran := ds_event (world.machine.setCurrentSubscriber current) client event inv.ds inv.sound
    (raised_admits raises)
  have same : result world client input =
      (world.machine.setCurrentSubscriber current).processAgpsEvent client event := by
    cases input with
    | releaseATL connHandle =>
      simp only [raised, Option.map_eq_some_iff] at raises
      obtain ⟨subscriber, found, rfl, rfl⟩ := raises
      simp only [result, found]
      rfl
    | adapterMsg =>
      cases queued : world.queue with
      | nil => simp [raised, queued] at raises
      | cons msg rest =>
        by_cases retry : msg.mAgpsType = .suplEs
        · simp only [raised, queued, retry, if_true, Option.some.injEq] at raises
          cases raises
          simp only [result, queued, retry, if_true]
          rfl
        · simp [raised, queued, retry] at raises
    | retryExpired => cases raises
    | _ => cases raises; rfl
  rwa [same]

/-- Without an event the machine stays as it is, and at most posts a retry. -/
private theorem result_silent (client : DsClient) (silent : raised world input = none) :
    (result world client input = (world.machine, []) ∧
        (world.before input).timers = world.timers ∧
        (RetryQueued (world.before input).queue ↔ RetryQueued world.queue) ∧
        (world.before input).calling = world.calling) ∨
      input = .retryExpired ∧ world.timers ≠ 0 ∧
        result world client input = (world.machine, world.machine.retryCallback) := by
  cases input with
  | releaseATL connHandle =>
    left
    simp only [raised, Option.map_eq_none_iff] at silent
    simp [result, silent, World.before]
  | retryExpired =>
    by_cases none_runs : world.timers = 0
    · exact .inl (by simp [result, none_runs, World.before])
    · exact .inr ⟨rfl, none_runs, by simp [result, none_runs]⟩
  | adapterMsg =>
    left
    cases queued : world.queue with
    | nil => simp [result, queued, World.before]
    | cons msg rest =>
      have other : msg.mAgpsType ≠ .suplEs := by
        intro retry
        simp [raised, queued, retry] at silent
      simp [result, queued, other, World.before, RetryQueued]
  | _ => cases silent

private theorem reaction_sound (inv : Inv world) (client : DsClient)
    (raises : raised world input = some (current, event)) :
    (reaction world client current event).after.Sound :=
  Connection.step_sound inv.sound
    (translated_admits (world.machine.setCurrentSubscriber current) (raised_admits raises)) _

/-- Every step keeps what every run has. -/
private theorem step_inv (world : World) (input : DsClient × Input) (inv : Inv world) :
    Inv (step world input) := by
  have machine : (step world input).machine = (result world input.1 input.2).1 := rfl
  cases raises : raised world input.2 with
  | none =>
    have unchanged : (result world input.1 input.2).1 = world.machine := by
      rcases result_silent input.1 raises with ⟨same, _⟩ | ⟨_, _, same⟩ <;> rw [same]
    exact ⟨by rw [machine, unchanged, inv.ds], by rw [machine, unchanged]; exact inv.sound⟩
  | some pair =>
    obtain ⟨ds, connection, _⟩ := result_raised inv input.1 raises
    exact ⟨ds, by rw [machine, connection]; exact reaction_sound inv input.1 raises⟩

private theorem raised_subscribe : raised world input = some (current, .subscribe) ↔
    ∃ handle, requested world input = some handle ∧ current = ⟨handle, true, false⟩ := by
  cases input with
  | adapterMsg =>
    unfold raised requested
    cases world.queue with
    | nil => simp
    | cons msg rest =>
      by_cases retry : msg.mAgpsType = .suplEs
      · simp [retry, eq_comm]
      · simp [retry]
  | releaseATL => simp [raised, requested]
  | _ => simp [raised, requested, eq_comm]

private theorem requested_is_requester (requests : requested world input = some handle) :
    requesters world input = [handle] := by
  cases input with
  | adapterMsg =>
    unfold requested at requests
    unfold requesters
    cases queued : world.queue with
    | nil => simp [queued] at requests
    | cons msg rest =>
      simp only [queued] at requests
      split at requests
      · cases requests
        rfl
      · cases requests
  | requestATL => cases requests; rfl
  | _ => cases requests

private theorem requested_timers (requests : requested world input = some handle) :
    (world.before input).timers = world.timers := by
  cases input <;> first | rfl | cases requests

/-- What a request does in `RELEASED`. -/
private theorem reaction_released (client : DsClient) (current : AgpsSubscriber)
    (released : world.machine.mState = .released) :
    reaction world client current .subscribe =
      ⟨⟨if client.callStart world.machine.mRetries == .accepted then .pending else .released,
          Connection.join current world.machine.mSubscriberList⟩, [], some true⟩ := by
  simp [reaction, dsReaction, translated, setCurrentSubscriber, connection, Connection.step,
    released]

/-- In `RELEASED` whoever is listed is active. -/
private theorem nobody_of_none_active (inv : Inv world)
    (released : world.machine.mState = .released)
    (found : Connection.firstActive world.machine.mSubscriberList = none) :
    world.machine.mSubscriberList = [] := by
  by_contra some_listed
  obtain ⟨subscriber, held⟩ := List.exists_mem_of_ne_nil _ some_listed
  have stays := List.find?_eq_none.mp found subscriber held
  exact inv.sound.released released subscriber.mConnHandle
    ⟨subscriber, held, rfl, by simpa using stays⟩

private theorem first_of_join (inv : Inv world) (released : world.machine.mState = .released)
    (current : AgpsSubscriber) (active : current.mIsInactive = false) :
    ∃ first, Connection.firstActive (Connection.join current world.machine.mSubscriberList) =
        some first ∧
      (first.mConnHandle = current.mConnHandle ↔
        ∀ first, world.machine.getFirstSubscriber false = some first →
          first.mConnHandle = current.mConnHandle) := by
  have firstListed : world.machine.getFirstSubscriber false =
      Connection.firstActive world.machine.mSubscriberList := rfl
  unfold Connection.join
  cases found : Connection.firstActive world.machine.mSubscriberList with
  | some first =>
    refine ⟨first, ?_, by simp [firstListed, found]⟩
    split
    · exact found
    · rw [Connection.firstActive, List.find?_append, ← Connection.firstActive, found]
      rfl
  | none =>
    have nobody := nobody_of_none_active inv released found
    exact ⟨current, by simp [nobody, Connection.firstActive, active], by simp [firstListed, found]⟩

private theorem retryQueued_append (queue : List AgpsMsgRequestATL)
    (supl : ∀ msg ∈ posted, msg.mAgpsType = .supl) :
    RetryQueued (queue ++ posted) ↔ RetryQueued queue := by
  constructor
  · rintro ⟨msg, held, retry⟩
    rcases List.mem_append.mp held with old | new
    · exact ⟨msg, old, retry⟩
    · exact absurd (retry.symm.trans (supl msg new)) (by decide)
  · rintro ⟨msg, held, retry⟩
    exact ⟨msg, List.mem_append_left _ held, retry⟩

/-- The world after a step, in terms of the effect of the machine's outputs. -/
private theorem step_eq (input : DsClient × Input)
    (effect : dsEffect (result world input.1 input.2).2 = after) :
    step world input =
      ⟨(result world input.1 input.2).1, (world.before input.2).queue ++ after.messages,
        (world.before input.2).timers + after.timersStarted,
        after.callAccepted || (world.before input.2).calling && !after.callStopped⟩ := by
  subst effect
  rfl

/-- What a request does in any other state: nothing but to list and tell the
subscriber. -/
private theorem reaction_elsewhere (client : DsClient) (current : AgpsSubscriber)
    (elsewhere : world.machine.mState ≠ .released) :
    (reaction world client current .subscribe).after.state = world.machine.mState ∧
      (reaction world client current .subscribe).dsEffect client world.machine.mRetries =
        .posts [] := by
  cases state : world.machine.mState with
  | released => exact absurd state elsewhere
  | _ =>
    simp [reaction, dsReaction, translated, setCurrentSubscriber, connection, Connection.step, state,
      Reaction.dsEffect, DsEffect.append_eq, denials, callEffect, DsEffect.posts]

private theorem before_other (raises : raised world input = some (current, event))
    (other : event ≠ .subscribe) :
    (world.before input).timers = world.timers ∧ (world.before input).queue = world.queue := by
  cases input with
  | adapterMsg =>
    unfold raised at raises
    grind
  | retryExpired => cases raises
  | _ => exact ⟨rfl, rfl⟩

/-- In `RELEASED` everybody who is listed would be retried. -/
private theorem nobody_without_retry (inv : Inv world) (released : world.machine.mState = .released)
    (idle : ¬ RetryQueued (messages world.machine.retryCallback)) :
    world.machine.mSubscriberList = [] := by
  cases found : world.machine.getFirstSubscriber false with
  | none => exact nobody_of_none_active inv released found
  | some first => exact absurd (by simp [retryCallback, found, messages, RetryQueued]) idle

private theorem requesters_other (raises : raised world input = some (current, event))
    (other : event ≠ .subscribe) :
    requesters world input = world.machine.mSubscriberList.map (·.mConnHandle) := by
  cases input with
  | adapterMsg =>
    unfold raised at raises
    grind
  | requestATL => cases raises; exact absurd rfl other
  | _ => rfl

private theorem retryCallback_posts_retry :
    ∀ msg ∈ messages world.machine.retryCallback, msg.mAgpsType = .suplEs := by
  unfold retryCallback
  split <;> simp [messages]

/-- The steps that request no call, or find another state, forget nobody. -/
private theorem other_step_forgets_nobody (client : DsClient) (inv : Inv world)
    (fine : NobodyForgotten world)
    (other : requested world input = none ∨ world.machine.mState ≠ .released) :
    NobodyForgotten (step world (client, input)) ∧ FallbackNamesRequester world (client, input) := by
  cases raises : raised world input with
  | none =>
    rcases result_silent client raises with ⟨same, timers, queue, _⟩ | ⟨rfl, running, same⟩
    · have silent : dsEffect (result world client input).2 = .posts [] := by
        rw [same]
        rfl
      rw [step_eq (client, input) silent]
      refine ⟨?_, by simp [FallbackNamesRequester, same, messages]⟩
      simpa only [NobodyForgotten, same, timers, DsEffect.posts, List.append_nil, Nat.add_zero,
        queue] using fine
    · refine ⟨?_, ?_⟩
      · intro released _ unqueued
        rw [step_eq (client, .retryExpired) rfl, same] at released unqueued ⊢
        have nobody := nobody_without_retry inv released (by
          rintro ⟨msg, held, type⟩
          exact unqueued ⟨msg, List.mem_append_right _ held, type⟩)
        exact nobody
      · intro msg posted type
        rw [same] at posted
        exact absurd (retryCallback_posts_retry msg posted) (by rw [type]; decide)
  | some pair =>
    obtain ⟨current, event⟩ := pair
    obtain ⟨_, after, effect⟩ := result_raised inv client raises
    by_cases subscribes : event = .subscribe
    · subst subscribes
      obtain ⟨handle, requests, _⟩ := raised_subscribe.mp raises
      have elsewhere := other.resolve_left (by simp [requests])
      obtain ⟨state, silent⟩ := reaction_elsewhere client current elsewhere
      rw [silent] at effect
      refine ⟨fun released => absurd ?_ elsewhere, ?_⟩
      · rw [← state, ← after]
        exact released
      · have posted : messages (result world client input).2 = [] := congrArg DsEffect.messages effect
        simp [FallbackNamesRequester, posted]
    · obtain ⟨timers, queue⟩ := before_other raises subscribes
      have translatedOther := translated_other world current subscribes
      have admits := translated_admits (world.machine.setCurrentSubscriber current)
        (raised_admits raises)
      have supl := dsEffect_posts_supl client (reaction world client current event)
        world.machine.mRetries
      rw [← effect] at supl
      refine ⟨?_, ?_⟩
      · intro released idle unqueued
        have quiet : world.timers = 0 ∧ ¬ RetryQueued world.queue := by
          rw [step_eq (client, input) rfl] at idle unqueued
          rw [retryQueued_append _ supl, queue] at unqueued
          exact ⟨timers.symm.trans (Nat.add_eq_zero_iff.mp idle).1, unqueued⟩
        have left : (reaction world client current event).after.state = .released := by
          rw [← after]
          exact released
        rcases Connection.released_after_other translatedOther left with nobody | unchanged
        · exact (congrArg Connection.subscribers after).trans nobody
        · have same := after.trans unchanged
          exact (congrArg Connection.subscribers same).trans
            (fine ((congrArg Connection.state same).symm.trans released) quiet.1 quiet.2)
      · intro msg posted _
        have handed : msg ∈ (dsEffect (result world client input).2).messages := posted
        rw [effect] at handed
        have named : Connection.Listed world.machine.mSubscriberList msg.mConnHandle :=
          dsEffect_names_listed client inv.sound admits translatedOther world.machine.mRetries msg
            handed
        obtain ⟨subscriber, held, same⟩ := named
        rw [requesters_other raises subscribes]
        exact List.mem_map.mpr ⟨subscriber, held, same⟩

/-- A request in `RELEASED` keeps the property exactly if its start is kept. -/
private theorem request_forgets_nobody_iff (client : DsClient) (inv : Inv world)
    (requests : requested world input = some handle)
    (released : world.machine.mState = .released) :
    NobodyForgotten (step world (client, input)) ∧ FallbackNamesRequester world (client, input) ↔
      StartKept world (client, input) := by
  obtain ⟨first, found, same⟩ := first_of_join inv released ⟨handle, true, false⟩ rfl
  obtain ⟨_, after, effect⟩ :=
    result_raised inv client (raised_subscribe.mpr ⟨handle, requests, rfl⟩)
  rw [reaction_released client _ released] at after effect
  have filled : (result world client input).1.mSubscriberList ≠ [] := by
    intro empty
    have listed : [] = Connection.join ⟨handle, true, false⟩ world.machine.mSubscriberList :=
      empty.symm.trans (congrArg Connection.subscribers after)
    rw [← listed] at found
    cases found
  have state : (result world client input).1.mState =
      if client.callStart world.machine.mRetries == .accepted then .pending else .released :=
    congrArg Connection.state after
  have started : dsEffect (result world client input).2 =
      (client.callStart world.machine.mRetries).effect first := by
    rw [effect, Reaction.dsEffect, posts_append]
    simp [callEffect, found, denials]
  have posted : messages (result world client input).2 =
      ((client.callStart world.machine.mRetries).effect first).messages :=
    congrArg DsEffect.messages started
  rw [step_eq (client, input) started]
  simp only [NobodyForgotten, FallbackNamesRequester, StartKept, requested_is_requester requests,
    requested_timers requests, state, posted, requests, released, Option.some.injEq, filled]
  have one : ∀ goal : Int → Prop, (∀ other, handle = other → goal other) ↔ goal handle := by simp
  rw [one]
  cases start : client.callStart world.machine.mRetries with
  | accepted => simp [CallStart.effect]
  | retried => simp [CallStart.effect]
  | handedOver =>
    have retry : RetryQueued ((world.before input).queue ++ [⟨first.mConnHandle, .supl⟩]) ↔
        RetryQueued (world.before input).queue := retryQueued_append _ (by simp)
    simp only [CallStart.effect, retry, ← same]
    simp
    tauto
  | refused =>
    simp only [CallStart.effect, List.append_nil]
    simp
    tauto

end Runs

private theorem start_inv : Inv .start := ⟨rfl, Connection.empty_sound⟩

/-- Over any run, nobody is forgotten in `RELEASED` and every fallback names a
handle whose request failed, exactly if every request that finds `RELEASED`
starts its call, is retried after a timer, or fails while another retry is
outstanding and, if it is handed over, for the first active subscriber. -/
theorem nobody_forgotten_iff_starts_kept (inputs : List (DsClient × Input)) :
    ((∀ world ∈ states step .start inputs, NobodyForgotten world) ∧
        ∀ taken ∈ steps step .start inputs, FallbackNamesRequester taken.1 taken.2) ↔
      ∀ taken ∈ steps step .start inputs, StartKept taken.1 taken.2 := by
  refine always_with_events_iff_each_step step_inv ?_ inputs start_inv (fun _ _ _ => rfl)
  rintro world ⟨client, input⟩ inv fine
  cases requests : requested world input with
  | none =>
    exact iff_of_true (other_step_forgets_nobody client inv fine (.inl requests))
      (by simp [StartKept, requests])
  | some handle =>
    by_cases released : world.machine.mState = .released
    · exact request_forgets_nobody_iff client inv requests released
    · exact iff_of_true (other_step_forgets_nobody client inv fine (.inr released))
        fun _ _ found => absurd found released

/-- Without an emergency profile the call is handed over to normal SUPL, but
its subscriber stays listed; the next failure then hands over the wrong
handle. -/
theorem unsupported_call_forgets_its_subscriber :
    let unsupported : DsClient := ⟨some errUnsupported, true, true⟩
    let inputs := [(unsupported, Input.requestATL 1), (unsupported, Input.adapterMsg),
      (unsupported, Input.requestATL 2)]
    (∃ world ∈ states step .start inputs, ¬ NobodyForgotten world) ∧
      ∃ taken ∈ steps step .start inputs, ¬ FallbackNamesRequester taken.1 taken.2 := by
  decide

section Restart
variable {world : World} {input : Input}

private theorem step_state (client : DsClient) (inv : Inv world)
    (raises : raised world input = some (current, event)) :
    (step world (client, input)).machine.mState = (reaction world client current event).after.state :=
  congrArg Connection.state (result_raised inv client raises).2.1

private theorem request_accepted (client : DsClient) (inv : Inv world)
    (requests : requested world input = some handle)
    (released : world.machine.mState = .released)
    (accepted : client.callStart world.machine.mRetries = .accepted) :
    (step world (client, input)).calling = true := by
  obtain ⟨first, found, _⟩ := first_of_join inv released ⟨handle, true, false⟩ rfl
  obtain ⟨_, _, effect⟩ :=
    result_raised inv client (raised_subscribe.mpr ⟨handle, requests, rfl⟩)
  rw [reaction_released client _ released, Reaction.dsEffect, posts_append] at effect
  rw [step_eq (client, input) effect]
  simp [callEffect, found, accepted, CallStart.effect]

/-- A request keeps the wait, but for a retry that was all there was. -/
private theorem request_waits_iff (client : DsClient) (inv : Inv world)
    (fine : WaitsForSomething world) (requests : requested world input = some handle) :
    WaitsForSomething (step world (client, input)) ↔ RestartKept world (client, input) := by
  have raises := raised_subscribe.mpr ⟨handle, requests, rfl⟩
  have state := step_state client inv raises
  have unclosed : input ≠ .dataCallClosed := by
    rintro rfl
    cases requests
  by_cases released : world.machine.mState = .released
  · refine iff_of_true (fun pending => .inl (request_accepted client inv requests released ?_))
      ⟨fun closes => absurd closes unclosed, fun _ pending => ?_⟩
    · rw [reaction_released client _ released] at state
      by_contra failed
      have stays : (client.callStart world.machine.mRetries == .accepted) = false := by
        simpa using failed
      simp [state, stays] at pending
    · simp [released] at pending
  · obtain ⟨same, silent⟩ := reaction_elsewhere client ⟨handle, true, false⟩ released
    obtain ⟨_, _, effect⟩ := result_raised inv client raises
    rw [silent] at effect
    rw [same] at state
    rw [WaitsForSomething, state, step_eq (client, input) effect]
    cases input with
    | requestATL connHandle =>
      refine iff_of_true ?_ ⟨fun closes => absurd closes unclosed, by simp⟩
      simpa [DsEffect.posts, World.before, WaitsForSomething] using fine
    | adapterMsg => simp [RestartKept, requests, DsEffect.posts, World.before]
    | _ => cases requests

/-- The report that the call is closed, where the connection is being given
up. -/
private theorem closed_waits_iff (client : DsClient) (inv : Inv world)
    (releasing : world.machine.mState = .releasing) :
    WaitsForSomething (step world (client, .dataCallClosed)) ↔
      RestartKept world (client, .dataCallClosed) := by
  have raises : raised world .dataCallClosed = some (world.machine.mCurrentSubscriber, .released) :=
    rfl
  obtain ⟨_, _, effect⟩ := result_raised inv client raises
  have state := step_state client inv raises
  have completed : reaction world client world.machine.mCurrentSubscriber .released =
      Connection.closed world.machine.mSubscriberList := by
    simp [reaction, dsReaction, translated, setCurrentSubscriber, connection, Connection.step,
      releasing]
  rw [completed] at state effect
  have undenied : denials (Connection.closed world.machine.mSubscriberList).notices = [] := by
    simp only [denials, Connection.closed, Connection.tell, List.filter_map, Function.comp_def]
    simp
  have active : world.machine.anyActiveSubscribers =
      Connection.anyActive world.machine.mSubscriberList := rfl
  rw [Reaction.dsEffect, posts_append, undenied] at effect
  rw [WaitsForSomething, state, step_eq (client, .dataCallClosed) effect, RestartKept, active]
  cases somebody : Connection.anyActive world.machine.mSubscriberList with
  | false => simp [Connection.closed, somebody]
  | true =>
    obtain ⟨handle, waits⟩ := Connection.anyActive_iff.mp somebody
    obtain ⟨first, found⟩ := Option.isSome_iff_exists.mp
      (firstActive_isSome (Connection.holdsActive_filter_active.mpr waits))
    simp only [Connection.closed, somebody, if_true, callEffect, found, World.before]
    have different : AGpsExtType.supl ≠ AGpsExtType.suplEs := by decide
    cases client.callStart world.machine.mRetries <;>
      simp [CallStart.effect, releasing, RetryQueued, different]

private theorem effect_uncalled (client : DsClient) (retries : Nat) {reaction : Reaction}
    (uncalled : reaction.call = none) :
    reaction.dsEffect client retries = .posts (denials reaction.notices) := by
  rw [Reaction.dsEffect, uncalled, posts_append]
  simp [callEffect, DsEffect.posts]

/-- Only a call that closes in `RELEASING` starts the next one. -/
private theorem other_step_calls_nobody (client : DsClient)
    (unrequested : requested world input = none)
    (other : input = .dataCallClosed → world.machine.mState ≠ .releasing)
    {current : AgpsSubscriber} {event : AgpsEvent}
    (raises : raised world input = some (current, event)) (subscribes : event ≠ .subscribe) :
    (reaction world client current event).call ≠ some true := by
  intro called
  obtain ⟨releasing, closes⟩ := Connection.request_on_close called
    (translated_other world current subscribes)
  cases input with
  | dataCallClosed => exact other rfl releasing
  | dataCallOpened =>
    cases raises
    simp [translated] at closes
  | releaseATL =>
    simp only [raised, Option.map_eq_some_iff] at raises
    obtain ⟨_, _, rfl, rfl⟩ := raises
    simp [translated] at closes
  | retryExpired => cases raises
  | requestATL => cases unrequested
  | adapterMsg => unfold raised at raises; unfold requested at unrequested; grind

/-- The other steps keep the wait. -/
private theorem other_step_waits (client : DsClient) (inv : Inv world)
    (fine : WaitsForSomething world) (unrequested : requested world input = none)
    (other : input = .dataCallClosed → world.machine.mState ≠ .releasing) :
    WaitsForSomething (step world (client, input)) := by
  intro pending
  cases raises : raised world input with
  | none =>
    rcases result_silent client raises with ⟨same, timers, queue, calling⟩ | ⟨rfl, _, same⟩
    · have silent : dsEffect (result world client input).2 = .posts [] := by
        rw [same]
        rfl
      rw [step_eq (client, input) silent, same] at pending
      rw [step_eq (client, input) silent]
      simpa [DsEffect.posts, timers, queue, calling] using fine pending
    · rw [step_eq (client, .retryExpired) rfl, same] at pending
      obtain ⟨handle, active⟩ := inv.sound.connected (.inl pending)
      obtain ⟨first, found⟩ := Option.isSome_iff_exists.mp (firstActive_isSome active)
      have listed : world.machine.getFirstSubscriber false = some first := found
      rw [step_eq (client, .retryExpired) rfl, same]
      refine .inr (.inr ⟨⟨first.mConnHandle, .suplEs⟩, ?_, rfl⟩)
      simp [dsEffect, retryCallback, listed, messages]
  | some pair =>
    obtain ⟨current, event⟩ := pair
    have subscribes : event ≠ .subscribe := by
      rintro rfl
      obtain ⟨handle, requests, _⟩ := raised_subscribe.mp raises
      exact absurd (unrequested.symm.trans requests) (by simp)
    obtain ⟨_, _, effect⟩ := result_raised inv client raises
    rw [step_state client inv raises] at pending
    have uncalled := other_step_calls_nobody client unrequested other raises subscribes
    obtain ⟨silent, before, ungranted⟩ := (Connection.pending_after pending).resolve_left uncalled
    have told : (reaction world client current event).dsEffect client world.machine.mRetries =
        .posts (denials (reaction world client current event).notices) :=
      effect_uncalled client world.machine.mRetries silent
    rw [step_eq (client, input) (effect.trans told)]
    cases input with
    | releaseATL =>
      rcases fine before with calling | running | ⟨msg, held, retry⟩
      · exact .inl (by simp [DsEffect.posts, World.before, calling])
      · exact .inr (.inl (by simpa [DsEffect.posts, World.before] using running))
      · exact .inr (.inr ⟨msg, List.mem_append_left _ held, retry⟩)
    | dataCallOpened =>
      cases raises
      simp [translated] at ungranted
    | dataCallClosed =>
      -- The report counts as DENIED here, which ends in `RELEASED`.
      cases raises
      have state : world.machine.mState = .pending := before
      simp [reaction, dsReaction, translated, setCurrentSubscriber, connection, Connection.step,
        inv.ds, state] at pending
    | retryExpired => cases raises
    | requestATL => cases unrequested
    | adapterMsg => unfold raised at raises; unfold requested at unrequested; grind

end Restart

/-- Over any run, `PENDING` waits for something, exactly if every restart after
a release starts its call, has it retried or finds a retry outstanding, and
every retry that is processed in `PENDING` leaves something to wait for. -/
theorem waits_for_something_iff_restarts_kept (inputs : List (DsClient × Input)) :
    (∀ world ∈ states step .start inputs, WaitsForSomething world) ↔
      ∀ taken ∈ steps step .start inputs, RestartKept taken.1 taken.2 := by
  refine always_iff_each_step step_inv ?_ inputs start_inv (by decide)
  rintro world ⟨client, input⟩ inv fine
  cases requests : requested world input with
  | some handle => exact request_waits_iff client inv fine requests
  | none =>
    by_cases restarts : input = .dataCallClosed ∧ world.machine.mState = .releasing
    · obtain ⟨rfl, releasing⟩ := restarts
      exact closed_waits_iff client inv releasing
    · refine iff_of_true (other_step_waits client inv fine requests
        fun closes releasing => restarts ⟨closes, releasing⟩)
        ⟨?_, fun _ _ found => absurd requests found⟩
      exact fun closes releasing => absurd ⟨closes, releasing⟩ restarts

/-- A second handle asks for the call while the first one waits for its close.
The close restarts the call, which is refused, and nothing is left that could
end `PENDING`. -/
theorem refused_restart_waits_for_nothing :
    let accepting : DsClient := ⟨some errSuccess, true, true⟩
    let refusing : DsClient := ⟨some errUnsupported, true, true⟩
    ∃ world ∈ states step .start [(accepting, .requestATL 1), (accepting, .dataCallOpened),
        (accepting, .releaseATL 1), (accepting, .requestATL 2), (refusing, .dataCallClosed)],
      ¬ WaitsForSomething world := by
  decide

end Msm8917Common.Agps.DsMachineProofs
