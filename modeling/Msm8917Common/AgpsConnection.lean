import Msm8917Common.Agps

/-! What a state machine is for, without the calls it makes: a connection that
is shared by subscribers. Both classes of state machine follow it; they differ
in how a notice is told and in whether a request for the connection is
accepted. -/
namespace Msm8917Common.Agps

/-- The state of a shared connection. -/
structure Connection where
  state : AgpsState
  subscribers : List AgpsSubscriber
  deriving DecidableEq

/-- What an event does: the connection it leaves, who is told which event, and
whether the connection is asked for (`some true`) or given up (`some false`). -/
structure Reaction where
  after : Connection
  notices : List (AgpsEvent × AgpsSubscriber)
  call : Option Bool
  deriving DecidableEq

namespace Connection

/-- The subscribers after `current` has subscribed. -/
def join (current : AgpsSubscriber) (subscribers : List AgpsSubscriber) : List AgpsSubscriber :=
  if subscribers.any (·.equals current) then subscribers else subscribers ++ [current]

/-- The subscribers after `current` has given up the connection. -/
def leave (current : AgpsSubscriber) (subscribers : List AgpsSubscriber) : List AgpsSubscriber :=
  if current.mWaitForCloseComplete then
    AgpsStateMachine.markInactive current.mConnHandle subscribers
  else subscribers.filter (!·.equals current)

def leaveNotices (current : AgpsSubscriber) : List (AgpsEvent × AgpsSubscriber) :=
  if current.mWaitForCloseComplete then [] else [(.unsubscribe, current)]

def anyActive (subscribers : List AgpsSubscriber) : Bool := subscribers.any (!·.mIsInactive)

/-- Every subscriber of one kind is told the event. -/
def tell (event : AgpsEvent) (subscribers : List AgpsSubscriber) :
    List (AgpsEvent × AgpsSubscriber) :=
  subscribers.map (event, ·)

/-- A report in `RELEASING` that the connection is down. -/
def closed (subscribers : List AgpsSubscriber) : Reaction where
  after := ⟨if anyActive subscribers then .pending else .released,
    subscribers.filter (!·.mIsInactive)⟩
  notices := tell .released (subscribers.filter (·.mIsInactive))
  call := if anyActive subscribers then some true else none

/-- The reaction to an event that `current` raises, or to a report. A request
for a connection nobody has yet counts only when it is accepted. -/
def step (accepted : Bool) (current : AgpsSubscriber) (connection : Connection) :
    AgpsEvent → Reaction
  | .subscribe =>
    let joined := join current connection.subscribers
    match connection.state with
    | .released => ⟨⟨if accepted then .pending else .released, joined⟩, [], some true⟩
    | .acquired => ⟨⟨.acquired, joined⟩, [(.granted, current)], none⟩
    | state => ⟨⟨state, joined⟩, [], none⟩
  | .unsubscribe =>
    let left := leave current connection.subscribers
    match connection.state with
    | .released => ⟨connection, [(.unsubscribe, current)], none⟩
    | .releasing =>
      ⟨⟨if left.isEmpty then .released else .releasing, left⟩, leaveNotices current, none⟩
    | state =>
      if left.isEmpty then ⟨⟨.released, left⟩, leaveNotices current, some false⟩
      else if !anyActive left then ⟨⟨.releasing, left⟩, leaveNotices current, some false⟩
      else ⟨⟨state, left⟩, leaveNotices current, none⟩
  | .granted =>
    match connection.state with
    | .pending => ⟨⟨.acquired, connection.subscribers⟩,
        tell .granted (connection.subscribers.filter (!·.mIsInactive)), none⟩
    | _ => ⟨connection, [], none⟩
  | .released =>
    match connection.state with
    | .acquired => ⟨⟨.released, []⟩, tell .released connection.subscribers, none⟩
    | .releasing => closed connection.subscribers
    | _ => ⟨connection, [], none⟩
  | .denied =>
    match connection.state with
    | .pending => ⟨⟨.released, []⟩, tell .denied connection.subscribers, none⟩
    | .releasing => closed connection.subscribers
    | _ => ⟨connection, [], none⟩

end Connection

namespace AgpsStateMachine

def connection (machine : AgpsStateMachine) : Connection :=
  ⟨machine.mState, machine.mSubscriberList⟩

/-- The machine with another connection. -/
def withConnection (machine : AgpsStateMachine) (connection : Connection) : AgpsStateMachine :=
  { machine with mState := connection.state, mSubscriberList := connection.subscribers }

/-- The calls that tell a notice. -/
def told (machine : AgpsStateMachine) (notice : AgpsEvent × AgpsSubscriber) : List AgpsOutput :=
  (machine.notifyOnly notice.1 notice.2).2

/-- A DENIED notice of a `DSStateMachine` starts the count of retries again. -/
def afterNotices (machine : AgpsStateMachine) (notices : List (AgpsEvent × AgpsSubscriber)) :
    AgpsStateMachine :=
  if machine.isDs && notices.any (·.1 == .denied) then { machine with mRetries := 0 } else machine

/-- Whether a request of the current subscriber, once it is listed, is
accepted. -/
def accepts (machine : AgpsStateMachine) (client : DsClient) : Bool :=
  ((machine.addSubscriber machine.mCurrentSubscriber).requestOrReleaseDataConn client true).2.2 == 0

/-- The event that the machine takes a report for. -/
def translated (machine : AgpsStateMachine) (event : AgpsEvent) : AgpsEvent :=
  if machine.isDs && event == .released && machine.mState == .pending then .denied else event

/-- A reaction carried out through the machine's callbacks. -/
def perform (machine : AgpsStateMachine) (client : DsClient) (reaction : Reaction) :
    AgpsStateMachine × List AgpsOutput :=
  let next := (machine.withConnection reaction.after).afterNotices reaction.notices
  let notices := reaction.notices.flatMap machine.told
  match reaction.call with
  | none => (next, notices)
  | some request =>
    let (next, calls, _) := next.requestOrReleaseDataConn client request
    (next, notices ++ calls)

section Refinement
variable (machine : AgpsStateMachine) (client : DsClient)

@[simp] theorem told_afterNotices (notices : List (AgpsEvent × AgpsSubscriber)) :
    (machine.afterNotices notices).told = machine.told := by
  funext notice
  unfold afterNotices
  split
  · simp only [told, notifyOnly]
    split <;> rfl
  · rfl

@[simp] theorem afterNotices_isDs (notices : List (AgpsEvent × AgpsSubscriber)) :
    (machine.afterNotices notices).isDs = machine.isDs := by
  unfold afterNotices
  split <;> rfl

@[simp] theorem afterNotices_nil : machine.afterNotices [] = machine := by
  simp [afterNotices]

theorem afterNotices_append (first second : List (AgpsEvent × AgpsSubscriber)) :
    machine.afterNotices (first ++ second) = (machine.afterNotices first).afterNotices second := by
  by_cases ds : machine.isDs <;>
    by_cases before : first.any (·.1 == .denied) <;>
      by_cases later : second.any (·.1 == .denied) <;>
        simp_all [afterNotices]

theorem notifyOnly_eq (event : AgpsEvent) (subscriber : AgpsSubscriber) :
    machine.notifyOnly event subscriber =
      (machine.afterNotices [(event, subscriber)], machine.told (event, subscriber)) := by
  unfold told afterNotices
  cases ds : machine.isDs <;> cases event <;> simp [notifyOnly, ds]

private theorem notifyLoop_eq (event : AgpsEvent) (deleteSubscriberPostNotify : Bool)
    (kind : AgpsNotificationType) (subscribers : List AgpsSubscriber) :
    notifyLoop event deleteSubscriberPostNotify kind machine subscribers =
      (machine.afterNotices (Connection.tell event (subscribers.filter (kind.applies ·))),
        if deleteSubscriberPostNotify then subscribers.filter (!kind.applies ·) else subscribers,
        (Connection.tell event (subscribers.filter (kind.applies ·))).flatMap machine.told) := by
  induction subscribers generalizing machine with
  | nil => simp [notifyLoop, Connection.tell]
  | cons subscriber rest ih =>
    by_cases applies : kind.applies subscriber
    · have split := machine.afterNotices_append [(event, subscriber)]
        (Connection.tell event (rest.filter (kind.applies ·)))
      cases deleteSubscriberPostNotify <;>
        simp_all [notifyLoop, notifyEventToSubscriber, notifyOnly_eq, Connection.tell]
    · simp [notifyLoop, applies, ih, Connection.tell]
      cases deleteSubscriberPostNotify <;> simp

@[simp] theorem told_withConnection (connection : Connection) :
    (machine.withConnection connection).told = machine.told := by
  funext notice
  simp only [told, notifyOnly, withConnection]
  split <;> rfl

private theorem notifyAllSubscribers_eq (event : AgpsEvent) (deleteSubscriberPostNotify : Bool)
    (kind : AgpsNotificationType) :
    machine.notifyAllSubscribers event deleteSubscriberPostNotify kind =
      let notices := Connection.tell event (machine.mSubscriberList.filter (kind.applies ·))
      ((machine.withConnection ⟨machine.mState, if deleteSubscriberPostNotify then
          machine.mSubscriberList.filter (!kind.applies ·) else machine.mSubscriberList⟩).afterNotices
            notices, notices.flatMap machine.told) := by
  simp only [notifyAllSubscribers, notifyLoop_eq, afterNotices, withConnection]
  by_cases restarted : (machine.isDs && (Connection.tell event
      (machine.mSubscriberList.filter (kind.applies ·))).any (·.1 == .denied)) = true
  · simp only [restarted, if_true]
  · simp only [restarted, Bool.false_eq_true, if_false]

/-- A request or a release of the connection changes nothing but the count of
retries, and does not look at the state. -/
theorem requestOrReleaseDataConn_frame (request : Bool) (state : AgpsState) :
    ({ machine with mState := state } : AgpsStateMachine).requestOrReleaseDataConn client request =
      ({ machine with
          mState := state
          mRetries := (machine.requestOrReleaseDataConn client request).1.mRetries },
        (machine.requestOrReleaseDataConn client request).2) := by
  obtain ⟨isDs, agpsType, subscribers, current, before, apn, bearer, retries⟩ := machine
  cases isDs with
  | false => rfl
  | true =>
    simp only [requestOrReleaseDataConn, dsRequestOrReleaseDataConn, getFirstSubscriber,
      notifyEventToSubscriber, notifyOnly, if_true]
    split
    · rfl
    · split
      · rfl
      · split
        · rfl
        · split
          · split
            · rfl
            · split <;> rfl
          · split <;> rfl

private theorem addSubscriber_eq (subscriber : AgpsSubscriber) :
    machine.addSubscriber subscriber =
      { machine with mSubscriberList := Connection.join subscriber machine.mSubscriberList } := by
  unfold addSubscriber Connection.join
  split <;> rfl

private theorem subscribe_follows :
    machine.processAgpsEventSubscribe client =
      machine.perform client (machine.connection.step (machine.accepts client)
        machine.mCurrentSubscriber .subscribe) := by
  obtain ⟨isDs, agpsType, subscribers, current, state, apn, bearer, retries⟩ := machine
  cases state with
  | released =>
    let joined : AgpsStateMachine := ⟨isDs, agpsType, Connection.join current subscribers, current,
      .released, apn, bearer, retries⟩
    have kept := joined.requestOrReleaseDataConn_frame client true .released
    have transition := joined.requestOrReleaseDataConn_frame client true .pending
    simp only [processAgpsEventSubscribe, perform, Connection.step, connection,
      withConnection, afterNotices_nil, accepts, addSubscriber_eq, transitionState,
      List.flatMap_nil, List.nil_append, beq_iff_eq]
    split
    · refine Prod.ext ?_ (congrArg (·.2.1) transition.symm)
      exact (congrArg ({ ·.1 with mState := AgpsState.pending }) kept).trans
        (congrArg (·.1) transition.symm)
    · rfl
  | acquired =>
    simp [processAgpsEventSubscribe, perform, Connection.step, connection, withConnection,
      addSubscriber_eq, notifyEventToSubscriber, notifyOnly_eq, afterNotices]
  | pending =>
    simp [processAgpsEventSubscribe, perform, Connection.step, connection, withConnection,
      addSubscriber_eq]
  | releasing =>
    simp [processAgpsEventSubscribe, perform, Connection.step, connection, withConnection,
      addSubscriber_eq]

/-- A base machine always sends its request. -/
theorem base_accepts (base : machine.isDs = false) : machine.accepts client = true := by
  unfold accepts addSubscriber
  split <;> simp [requestOrReleaseDataConn, baseRequestOrReleaseDataConn, base]

private theorem leaveSubscriberList_eq :
    machine.leaveSubscriberList =
      ({ machine with
          mSubscriberList := Connection.leave machine.mCurrentSubscriber machine.mSubscriberList },
        (Connection.leaveNotices machine.mCurrentSubscriber).flatMap machine.told) := by
  unfold leaveSubscriberList Connection.leave Connection.leaveNotices
  split
  · rfl
  · simp [notifyEventToSubscriber, notifyOnly_eq, afterNotices, deleteSubscriber]

private theorem afterNotices_leaveNotices (subscriber : AgpsSubscriber) :
    machine.afterNotices (Connection.leaveNotices subscriber) = machine := by
  unfold afterNotices Connection.leaveNotices
  split <;> simp

private theorem unsubscribe_follows :
    machine.processAgpsEventUnsubscribe client =
      machine.perform client (machine.connection.step (machine.accepts client)
        machine.mCurrentSubscriber .unsubscribe) := by
  have connected : machine.unsubscribeConnected client =
      machine.perform client
        (let left := Connection.leave machine.mCurrentSubscriber machine.mSubscriberList
        let notices := Connection.leaveNotices machine.mCurrentSubscriber
        if left.isEmpty then ⟨⟨.released, left⟩, notices, some false⟩
        else if !Connection.anyActive left then ⟨⟨.releasing, left⟩, notices, some false⟩
        else ⟨⟨machine.mState, left⟩, notices, none⟩) := by
    simp only [unsubscribeConnected, leaveSubscriberList_eq, anyActiveSubscribers,
      Connection.anyActive]
    by_cases empty : (Connection.leave machine.mCurrentSubscriber machine.mSubscriberList).isEmpty
    · simp only [empty, if_true, perform, transitionState, withConnection,
        afterNotices_leaveNotices]
    · by_cases inactive : (!(Connection.leave machine.mCurrentSubscriber
          machine.mSubscriberList).any (!·.mIsInactive)) = true
      · simp only [empty, inactive, if_true, perform, transitionState, withConnection,
          afterNotices_leaveNotices, Bool.false_eq_true, if_false]
      · simp only [empty, inactive, perform, withConnection,
          afterNotices_leaveNotices, Bool.false_eq_true, if_false]
  cases state : machine.mState with
  | released =>
    simp only [processAgpsEventUnsubscribe, state, notifyEventToSubscriber, notifyOnly_eq,
      Connection.step, connection, perform, withConnection]
    simp [← state]
  | releasing =>
    simp only [processAgpsEventUnsubscribe, state, leaveSubscriberList_eq, perform,
      Connection.step, connection, withConnection, afterNotices_leaveNotices]
    split <;> simp [transitionState, ← state]
  | pending =>
    simp only [processAgpsEventUnsubscribe, state, connected, Connection.step, connection]
  | acquired =>
    simp only [processAgpsEventUnsubscribe, state, connected, Connection.step, connection]

private theorem releaseCompleted_follows :
    machine.releaseCompleted client =
      machine.perform client (Connection.closed machine.mSubscriberList) := by
  have none_denied : (Connection.tell .released (machine.mSubscriberList.filter
      (·.mIsInactive))).any (·.1 == .denied) = false := by
    simp [Connection.tell]
  simp only [releaseCompleted, notifyAllSubscribers_eq, AgpsNotificationType.applies,
    Connection.closed, afterNotices, none_denied, perform, anyActiveSubscribers,
    Connection.anyActive]
  by_cases active : machine.mSubscriberList.any (!·.mIsInactive)
  · simp [active, transitionState, withConnection]
  · simp [active, transitionState, withConnection]

private theorem granted_follows :
    machine.processAgpsEventGranted =
      machine.perform client (machine.connection.step (machine.accepts client)
        machine.mCurrentSubscriber .granted) := by
  cases state : machine.mState with
  | pending =>
    have notified := (machine.transitionState .acquired).notifyAllSubscribers_eq .granted false
      .forActiveSubscribers
    have same := machine.told_withConnection ⟨.acquired, machine.mSubscriberList⟩
    simp only [processAgpsEventGranted, state, notified, perform, Connection.step, connection]
    exact Prod.ext rfl (by rw [← same]; rfl)
  | _ =>
    simp only [processAgpsEventGranted, state, perform, Connection.step, connection,
      withConnection, afterNotices_nil, List.flatMap_nil]
    rw [← state]

private theorem released_follows :
    machine.processAgpsEventReleased client =
      machine.perform client (machine.connection.step (machine.accepts client)
        machine.mCurrentSubscriber .released) := by
  cases state : machine.mState with
  | acquired =>
    have notified := (machine.transitionState .released).notifyAllSubscribers_eq .released true
      .forAllSubscribers
    have same := machine.told_withConnection ⟨.released, machine.mSubscriberList⟩
    simp only [processAgpsEventReleased, state, notified, perform, Connection.step, connection]
    simp only [AgpsNotificationType.applies, List.filter_true, Bool.not_true, List.filter_false,
      if_true]
    exact Prod.ext rfl (by rw [← same]; rfl)
  | releasing =>
    simp only [processAgpsEventReleased, state, releaseCompleted_follows, Connection.step,
      connection]
  | _ =>
    simp only [processAgpsEventReleased, state, perform, Connection.step, connection,
      withConnection, afterNotices_nil, List.flatMap_nil]
    rw [← state]

private theorem denied_follows :
    machine.processAgpsEventDenied client =
      machine.perform client (machine.connection.step (machine.accepts client)
        machine.mCurrentSubscriber .denied) := by
  cases state : machine.mState with
  | pending =>
    have notified := (machine.transitionState .released).notifyAllSubscribers_eq .denied true
      .forAllSubscribers
    have same := machine.told_withConnection ⟨.released, machine.mSubscriberList⟩
    simp only [processAgpsEventDenied, state, notified, perform, Connection.step, connection]
    simp only [AgpsNotificationType.applies, List.filter_true, Bool.not_true, List.filter_false,
      if_true]
    exact Prod.ext rfl (by rw [← same]; rfl)
  | releasing =>
    simp only [processAgpsEventDenied, state, releaseCompleted_follows, Connection.step,
      connection]
  | _ =>
    simp only [processAgpsEventDenied, state, perform, Connection.step, connection,
      withConnection, afterNotices_nil, List.flatMap_nil]
    rw [← state]

/-- Every event of either class is the reaction of the shared connection,
carried out through the callbacks. -/
theorem processAgpsEvent_follows_the_connection (event : AgpsEvent) :
    machine.processAgpsEvent client event =
      machine.perform client (machine.connection.step (machine.accepts client)
        machine.mCurrentSubscriber (machine.translated event)) := by
  have based : ∀ event, machine.baseProcessAgpsEvent client event =
      machine.perform client (machine.connection.step (machine.accepts client)
        machine.mCurrentSubscriber event) := by
    intro event
    cases event with
    | subscribe => exact machine.subscribe_follows client
    | unsubscribe => exact machine.unsubscribe_follows client
    | granted => exact machine.granted_follows client
    | released => exact machine.released_follows client
    | denied => exact machine.denied_follows client
  unfold processAgpsEvent translated
  split <;> exact based _

end Refinement

end AgpsStateMachine
end Msm8917Common.Agps
