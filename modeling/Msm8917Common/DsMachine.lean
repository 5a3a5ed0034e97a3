import Msm8917Common.AgpsManager
import Msm8917Common.AgpsConnectionProofs

/-! What `DSStateMachine` adds to the shared connection: a request starts a data
call, which can be accepted, retried after a timer, handed over to normal SUPL,
or be refused with nothing left to try it again. -/
namespace Msm8917Common.Agps
open AgpsStateMachine

/-- How the start of a data call ends. -/
inductive CallStart where
  | accepted | retried | handedOver | refused
  deriving DecidableEq, Repr

/-- The end of a start, from the answers of the data service and the retries
made so far. -/
def DsClient.callStart (client : DsClient) (retries : Nat) : CallStart :=
  match client.mDSClientOpenAndStartDataCallFn with
  | none => .handedOver
  | some ret =>
    if ret = errEngineBusy then
      if retries + 1 > maxStartDataCallRetries then .handedOver
      else if client.locTimerStart then .retried else .refused
    else if ret = errUnsupported then .handedOver
    else if ret = errSuccess then .accepted
    else .refused

/-- The messages posted to the adapter's queue. -/
def messages (outputs : List AgpsOutput) : List AgpsMsgRequestATL :=
  outputs.filterMap fun
    | .sendMsgToAdapterQueue msg => some msg
    | _ => none

def timersStarted (outputs : List AgpsOutput) : Nat := outputs.count (.locTimerStart true)

def callAccepted (outputs : List AgpsOutput) : Bool :=
  outputs.contains (.dsClientOpenAndStartDataCall errSuccess)

def callStopped (outputs : List AgpsOutput) : Bool := outputs.contains .dsClientStopDataCall

/-- What the outputs of one event say about data calls and queued messages. -/
structure DsEffect where
  messages : List AgpsMsgRequestATL
  timersStarted : Nat
  callAccepted : Bool
  callStopped : Bool
  deriving DecidableEq

def dsEffect (outputs : List AgpsOutput) : DsEffect :=
  ⟨messages outputs, timersStarted outputs, callAccepted outputs, callStopped outputs⟩

instance : Append DsEffect where
  append first second := ⟨first.messages ++ second.messages,
    first.timersStarted + second.timersStarted, first.callAccepted || second.callAccepted,
    first.callStopped || second.callStopped⟩

theorem DsEffect.append_eq (first second : DsEffect) :
    first ++ second = ⟨first.messages ++ second.messages,
      first.timersStarted + second.timersStarted, first.callAccepted || second.callAccepted,
      first.callStopped || second.callStopped⟩ := rfl

/-- The effect of messages alone. -/
def DsEffect.posts (messages : List AgpsMsgRequestATL) : DsEffect := ⟨messages, 0, false, false⟩

theorem dsEffect_append (first second : List AgpsOutput) :
    dsEffect (first ++ second) = dsEffect first ++ dsEffect second := by
  simp [DsEffect.append_eq, dsEffect, messages, timersStarted, callAccepted, callStopped]

theorem posts_append (messages : List AgpsMsgRequestATL) (effect : DsEffect) :
    .posts messages ++ effect = { effect with messages := messages ++ effect.messages } := by
  simp [DsEffect.append_eq, DsEffect.posts]

/-- The effect of a start on behalf of `first`. -/
def CallStart.effect (first : AgpsSubscriber) : CallStart → DsEffect
  | .accepted => ⟨[], 0, true, false⟩
  | .retried => ⟨[], 1, false, false⟩
  | .handedOver => ⟨[⟨first.mConnHandle, .supl⟩], 0, false, false⟩
  | .refused => ⟨[], 0, false, false⟩

section Calls
variable (machine : AgpsStateMachine) (client : DsClient)

/-- A request for the connection starts a data call for the first active
subscriber. -/
theorem ds_request (ds : machine.isDs = true) (first : AgpsSubscriber)
    (found : machine.getFirstSubscriber false = some first) :
    ((machine.requestOrReleaseDataConn client true).2.2 = 0 ↔
        client.callStart machine.mRetries = .accepted) ∧
      dsEffect (machine.requestOrReleaseDataConn client true).2.1 =
        (client.callStart machine.mRetries).effect first := by
  simp only [requestOrReleaseDataConn, ds, if_true, dsRequestOrReleaseDataConn, found,
    DsClient.callStart, Bool.not_true, Bool.false_and, Bool.false_eq_true, if_false]
  cases client.mDSClientOpenAndStartDataCallFn with
  | none =>
    simp only [notifyEventToSubscriber, notifyOnly, ds]
    exact ⟨by decide, rfl⟩
  | some ret =>
    by_cases busy : ret = errEngineBusy
    · subst busy
      simp only [if_true]
      by_cases exhausted : machine.mRetries + 1 > maxStartDataCallRetries
      · simp only [exhausted, if_true, notifyEventToSubscriber, notifyOnly]
        exact ⟨by decide, rfl⟩
      · simp only [exhausted, if_false]
        cases client.locTimerStart <;> exact ⟨by simp [errEngineBusy], rfl⟩
    · by_cases unsupported : ret = errUnsupported
      · subst unsupported
        simp only [busy, if_true, if_false, notifyEventToSubscriber, notifyOnly, ds]
        exact ⟨by decide, rfl⟩
      · simp only [busy, unsupported, if_false]
        by_cases success : ret = errSuccess
        · subst success
          exact ⟨by decide, rfl⟩
        · have failed : ret ≠ 0 := success
          have rejected : AgpsOutput.dsClientOpenAndStartDataCall ret ≠
              .dsClientOpenAndStartDataCall errSuccess := by
            simpa using success
          simp [failed, success, dsEffect, messages, timersStarted, callAccepted, callStopped,
            CallStart.effect, Ne.symm rejected]

/-- A release for which nobody is active stops the data call, or does
nothing. -/
theorem ds_release (ds : machine.isDs = true) (idle : machine.getFirstSubscriber false = none) :
    dsEffect (machine.requestOrReleaseDataConn client false).2.1 =
      ⟨[], 0, false, client.mDSClientStopDataCallFn⟩ := by
  simp only [requestOrReleaseDataConn, ds, if_true, dsRequestOrReleaseDataConn, idle,
    Bool.not_false, Bool.true_and]
  cases client.mDSClientStopDataCallFn <;> rfl

end Calls

/-- The first active subscriber of a list. -/
def Connection.firstActive (subscribers : List AgpsSubscriber) : Option AgpsSubscriber :=
  subscribers.find? (·.mIsInactive == false)

/-- Who is handed over to normal SUPL by the notices of a `DSStateMachine`. -/
def denials (notices : List (AgpsEvent × AgpsSubscriber)) : List AgpsMsgRequestATL :=
  (notices.filter (·.1 == .denied)).map fun notice => ⟨notice.2.mConnHandle, .supl⟩

/-- The effect of a call for the connection. -/
def callEffect (client : DsClient) (retries : Nat) (subscribers : List AgpsSubscriber) :
    Option Bool → DsEffect
  | none => .posts []
  | some false => ⟨[], 0, false, client.mDSClientStopDataCallFn⟩
  | some true =>
    match Connection.firstActive subscribers with
    | none => .posts []
    | some first => (client.callStart retries).effect first

/-- The effect of a reaction of a `DSStateMachine`. -/
def Reaction.dsEffect (client : DsClient) (retries : Nat) (reaction : Reaction) : DsEffect :=
  .posts (denials reaction.notices) ++
    callEffect client retries reaction.after.subscribers reaction.call

section Receive
variable {machine : AgpsStateMachine} {client : DsClient}

private theorem dsEffect_notices (ds : machine.isDs = true)
    (notices : List (AgpsEvent × AgpsSubscriber)) :
    dsEffect (notices.flatMap machine.told) = .posts (denials notices) := by
  induction notices with
  | nil => rfl
  | cons notice rest ih =>
    have one : dsEffect (machine.told notice) = .posts (denials [notice]) := by
      obtain ⟨event, subscriber⟩ := notice
      cases event <;> simp only [told, notifyOnly, ds] <;> rfl
    have split : denials (notice :: rest) = denials [notice] ++ denials rest := by
      simp only [denials, ← List.map_append, ← List.filter_append, List.singleton_append]
    rw [List.flatMap_cons, dsEffect_append, one, ih, split, posts_append]
    rfl

/-- What the machine does with a reaction of its connection. -/
theorem ds_perform (ds : machine.isDs = true) {reaction : Reaction}
    (requested : reaction.call = some true →
      (Connection.firstActive reaction.after.subscribers).isSome)
    (released : reaction.call = some false →
      Connection.firstActive reaction.after.subscribers = none)
    (undenied : reaction.call ≠ none → ∀ notice ∈ reaction.notices, notice.1 ≠ .denied) :
    (machine.perform client reaction).1.isDs = true ∧
      (machine.perform client reaction).1.connection = reaction.after ∧
      dsEffect (machine.perform client reaction).2 = reaction.dsEffect client machine.mRetries := by
  have plain := dsEffect_notices ds reaction.notices
  unfold perform Reaction.dsEffect
  cases call : reaction.call with
  | none =>
    refine ⟨by simpa [withConnection] using ds, ?_, ?_⟩
    · unfold afterNotices
      split <;> rfl
    · simp only [plain, callEffect, posts_append]
      simp [DsEffect.posts]
  | some request =>
    have kept : (machine.withConnection reaction.after).afterNotices reaction.notices =
        machine.withConnection reaction.after := by
      have nobody : reaction.notices.any (·.1 == .denied) = false := by
        simpa using undenied (by simp [call])
      simp [afterNotices, nobody]
    have frame := (machine.withConnection reaction.after).requestOrReleaseDataConn_frame client
      request reaction.after.state
    have same := congrArg (·.1) frame
    simp only [kept, dsEffect_append, plain]
    refine ⟨?_, ?_, ?_⟩
    · exact (congrArg (·.isDs) same).trans ds
    · exact congrArg connection same
    · cases request with
      | true =>
        obtain ⟨first, found⟩ := Option.isSome_iff_exists.mp (requested call)
        have start := (ds_request (machine.withConnection reaction.after) client ds first found).2
        rw [start]
        simp [callEffect, found, withConnection]
      | false =>
        rw [ds_release (machine.withConnection reaction.after) client ds (released call)]
        rfl

theorem firstActive_isSome (active : Connection.HoldsActive subscribers handle) :
    (Connection.firstActive subscribers).isSome := by
  obtain ⟨subscriber, held, _, stays⟩ := active
  rw [Connection.firstActive, List.find?_isSome]
  exact ⟨subscriber, held, by simp [stays]⟩

theorem firstActive_eq_none (idle : Connection.anyActive subscribers = false) :
    Connection.firstActive subscribers = none := by
  rw [Connection.firstActive, List.find?_eq_none]
  simpa [Connection.anyActive] using idle

/-- The reaction of a `DSStateMachine` to an event: a request is accepted if
the data call starts. -/
def dsReaction (machine : AgpsStateMachine) (client : DsClient) (event : AgpsEvent) : Reaction :=
  machine.connection.step (client.callStart machine.mRetries == .accepted)
    machine.mCurrentSubscriber (machine.translated event)

/-- A request is accepted exactly if the data call starts. -/
theorem accepts_eq (client : DsClient) (ds : machine.isDs = true) (sound : machine.connection.Sound)
    (active : machine.mCurrentSubscriber.mIsInactive = false)
    (released : machine.connection.state = .released) :
    machine.accepts client = (client.callStart machine.mRetries == .accepted) := by
  have added : machine.addSubscriber machine.mCurrentSubscriber =
      machine.withConnection ⟨machine.mState,
        Connection.join machine.mCurrentSubscriber machine.mSubscriberList⟩ := by
    unfold addSubscriber Connection.join
    split <;> rfl
  obtain ⟨first, found⟩ := Option.isSome_iff_exists.mp
    (firstActive_isSome (Connection.joined_active sound active released))
  have start := (ds_request (machine.addSubscriber machine.mCurrentSubscriber) client
    (by rw [added]; exact ds) first (by rw [added]; exact found)).1
  have retries : (machine.addSubscriber machine.mCurrentSubscriber).mRetries = machine.mRetries := by
    rw [added]
    rfl
  rw [retries] at start
  rw [accepts, Bool.eq_iff_iff, beq_iff_eq, beq_iff_eq]
  exact start

/-- A `DSStateMachine` posts no retry while it handles an event. -/
theorem dsEffect_posts_supl (client : DsClient) (reaction : Reaction) (retries : Nat) :
    ∀ msg ∈ (reaction.dsEffect client retries).messages, msg.mAgpsType = .supl := by
  have denied : ∀ msg ∈ denials reaction.notices, msg.mAgpsType = .supl := by
    simp [denials]
  intro msg posted
  rw [Reaction.dsEffect, posts_append] at posted
  rcases List.mem_append.mp posted with told | handed
  · exact denied msg told
  · unfold callEffect at handed
    split at handed
    · simp [DsEffect.posts] at handed
    · simp at handed
    · split at handed
      · simp [DsEffect.posts] at handed
      · cases start : client.callStart retries <;>
          simp_all [CallStart.effect]

/-- A call hands over nobody but an active subscriber. -/
theorem callEffect_names_active (client : DsClient) (retries : Nat) (call : Option Bool) :
    ∀ msg ∈ (callEffect client retries subscribers call).messages,
      Connection.HoldsActive subscribers msg.mConnHandle := by
  intro msg handed
  unfold callEffect at handed
  split at handed
  · exact absurd handed List.not_mem_nil
  · exact absurd handed List.not_mem_nil
  · split at handed
    · exact absurd handed List.not_mem_nil
    · next first found =>
      have active : first.mIsInactive = false := by
        simpa using List.find?_some found
      have named : msg.mConnHandle = first.mConnHandle := by
        cases start : client.callStart retries with
        | handedOver =>
          rw [start] at handed
          exact congrArg (·.mConnHandle) (List.mem_singleton.mp handed)
        | _ =>
          rw [start] at handed
          exact absurd handed List.not_mem_nil
      exact ⟨first, List.mem_of_find?_eq_some found, named.symm, active⟩

/-- Whoever is handed over to normal SUPL by an event that subscribes nobody
was listed. -/
theorem dsEffect_names_listed (client : DsClient) {connection : Connection} {accepted : Bool}
    (sound : connection.Sound) (admits : connection.Admits current event)
    (other : event ≠ .subscribe) (retries : Nat) :
    ∀ msg ∈ ((connection.step accepted current event).dsEffect client retries).messages,
      Connection.Listed connection.subscribers msg.mConnHandle := by
  obtain ⟨told, stays⟩ := Connection.listed_before sound admits other
  intro msg posted
  rw [Reaction.dsEffect, posts_append] at posted
  rcases List.mem_append.mp posted with denied | handed
  · simp only [denials, List.mem_map, List.mem_filter] at denied
    obtain ⟨notice, ⟨held, _⟩, rfl⟩ := denied
    exact told notice held
  · exact stays _ (Connection.listed_iff.mpr (.inl (callEffect_names_active client retries _ _ handed)))

theorem translated_admits (machine : AgpsStateMachine)
    (admits : machine.connection.Admits machine.mCurrentSubscriber event) :
    machine.connection.Admits machine.mCurrentSubscriber (machine.translated event) := by
  unfold translated
  split
  · trivial
  · exact admits

/-- The start of the data call decides whether a request is accepted. -/
theorem dsReaction_eq (machine : AgpsStateMachine) (client : DsClient) (event : AgpsEvent)
    (ds : machine.isDs = true) (sound : machine.connection.Sound)
    (admits : machine.connection.Admits machine.mCurrentSubscriber event) :
    machine.connection.step (machine.accepts client) machine.mCurrentSubscriber
      (machine.translated event) = dsReaction machine client event := by
  by_cases joins : machine.translated event = .subscribe ∧ machine.connection.state = .released
  · have admitted := translated_admits machine admits
    rw [joins.1] at admitted
    rw [dsReaction, accepts_eq client ds sound admitted joins.2]
  · exact Connection.step_unasked _ _ fun subscribes released => joins ⟨subscribes, released⟩

/-- What an event does to a `DSStateMachine`. -/
theorem ds_event (machine : AgpsStateMachine) (client : DsClient) (event : AgpsEvent)
    (ds : machine.isDs = true) (sound : machine.connection.Sound)
    (admits : machine.connection.Admits machine.mCurrentSubscriber event) :
    (machine.processAgpsEvent client event).1.isDs = true ∧
      (machine.processAgpsEvent client event).1.connection =
        (dsReaction machine client event).after ∧
      dsEffect (machine.processAgpsEvent client event).2 =
        (dsReaction machine client event).dsEffect client machine.mRetries := by
  have admitted := translated_admits machine admits
  rw [processAgpsEvent_follows_the_connection, dsReaction_eq machine client event ds sound admits]
  refine ds_perform ds (fun requested => ?_) (fun released => ?_) fun called => ?_
  · obtain ⟨_, active⟩ := Connection.somebody_active_after_request sound admitted requested
    exact firstActive_isSome active
  · exact firstActive_eq_none (Connection.nobody_active_after_release released)
  · exact Connection.nobody_denied_with_a_call called

end Receive

end Msm8917Common.Agps
