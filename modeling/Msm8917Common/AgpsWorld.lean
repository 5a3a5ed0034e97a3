import Msm8917Common.AgpsManager
import Msm8917Common.DsMachine

/-! The three state machines together with what goes on around them: the queued
`AgpsMsgRequestATL`, the retry timers, and which handles the modem waits for or
has released. -/
namespace Msm8917Common.Agps

/-- The handles that are given an open status, whatever it says. -/
def answered (outputs : List AgpsOutput) : List Int :=
  outputs.filterMap fun
    | .atlOpenStatus handle _ _ _ _ => some handle
    | _ => none

/-- `waiting` has the handles that were requested and neither answered nor
released since, `released` those that were released and not requested again. -/
structure AgpsWorld where
  manager : AgpsManager
  queue : List AgpsMsgRequestATL
  timers : Nat
  waiting : List Int
  released : List Int
  deriving DecidableEq

/-- What happens next. A message for which the modem's own call was already
counted is taken from the queue by `adapterMsg`. -/
inductive AgpsInput where
  | requestATL (connHandle : Int) (agpsType : AGpsExtType)
  | releaseATL (connHandle : Int)
  | atlOpenSuccess (agpsType : AGpsExtType) (apnName : Option (List Char))
      (bearerType : AGpsBearerType)
  | atlOpenFailed (agpsType : AGpsExtType)
  | atlClosed (agpsType : AGpsExtType)
  | dataCallOpened
  | dataCallClosed
  | retryExpired
  | adapterMsg
  deriving DecidableEq, Repr

namespace AgpsWorld

/-- The world once the machines are created. -/
def start (conf : GpsConf) (callbacks : Callbacks) : AgpsWorld :=
  ⟨AgpsManager.new.createAgpsStateMachines conf callbacks, [], 0, [], []⟩

/-- The world when the manager runs. -/
def before (world : AgpsWorld) : AgpsInput → AgpsWorld
  | .requestATL connHandle _ =>
    { world with
      waiting := world.waiting.insert connHandle
      released := world.released.filter (· ≠ connHandle) }
  | .releaseATL connHandle =>
    { world with
      waiting := world.waiting.filter (· ≠ connHandle)
      released := world.released.insert connHandle }
  | .retryExpired => { world with timers := world.timers - 1 }
  | .adapterMsg => { world with queue := world.queue.tail }
  | _ => world

/-- What the manager does with an input. `none` stands for a call through a
null pointer. -/
def run (world : AgpsWorld) (conf : GpsConf) (callbacks : Callbacks) :
    AgpsInput → Option (AgpsManager × List AgpsOutput)
  | .requestATL connHandle agpsType =>
    some (world.manager.requestATL conf callbacks connHandle agpsType)
  | .releaseATL connHandle => some (world.manager.releaseATL callbacks connHandle)
  | .atlOpenSuccess agpsType apnName bearerType =>
    world.manager.reportAtlOpenSuccess conf callbacks agpsType apnName bearerType
  | .atlOpenFailed agpsType => world.manager.reportAtlOpenFailed conf callbacks agpsType
  | .atlClosed agpsType => world.manager.reportAtlClosed conf callbacks agpsType
  | .dataCallOpened => some (world.manager.reportDataCallOpened callbacks)
  | .dataCallClosed => some (world.manager.reportDataCallClosed callbacks)
  | .retryExpired =>
    match world.timers, world.manager.mDsNif with
    | 0, _ => some (world.manager, [])
    | _, none => some (world.manager, [])
    | _, some machine => some (world.manager, machine.retryCallback)
  | .adapterMsg =>
    match world.queue with
    | [] => some (world.manager, [])
    | msg :: _ => some (world.manager.requestATL conf callbacks msg.mConnHandle msg.mAgpsType)

/-- A step. The program has no further states after a call through a null
pointer, so the world then stays as it is. -/
def step (conf : GpsConf) (world : AgpsWorld) (input : Callbacks × AgpsInput) : AgpsWorld :=
  match world.run conf input.1 input.2 with
  | none => world
  | some (manager, outputs) =>
    let world := world.before input.2
    { world with
      manager := manager
      queue := world.queue ++ messages outputs
      timers := world.timers + timersStarted outputs
      waiting := world.waiting.filter (· ∉ answered outputs) }

/-- The outputs of a step. -/
def outputs (conf : GpsConf) (world : AgpsWorld) (input : Callbacks × AgpsInput) :
    List AgpsOutput :=
  ((world.run conf input.1 input.2).map (·.2)).getD []

end AgpsWorld

/-- The connection in a field of the manager. A machine that is not there yet
is one that nobody has used. -/
def AgpsManager.connectionAt (manager : AgpsManager) (nif : Nif) : Connection :=
  ((manager.nif nif).map (·.connection)).getD ⟨.released, []⟩

/-- An event on its way to a machine, with the manager once the machine was
looked up. -/
structure Raised where
  manager : AgpsManager
  nif : Nif
  machine : AgpsStateMachine
  event : AgpsEvent

/-- The machine handles the event. -/
def Raised.deliver (raised : Raised) (client : DsClient) : AgpsManager × List AgpsOutput :=
  let (machine, outputs) := raised.machine.processAgpsEvent client raised.event
  (raised.manager.setNif machine raised.nif, outputs)

namespace AgpsManager

def raise (manager : AgpsManager) (nif : Nif) (prepare : AgpsStateMachine → AgpsStateMachine)
    (event : AgpsEvent) : Option Raised :=
  (manager.nif nif).map fun machine => ⟨manager, nif, prepare machine, event⟩

/-- What a request raises. -/
def raisedByRequest (manager : AgpsManager) (conf : GpsConf) (callbacks : Callbacks)
    (connHandle : Int) (agpsType : AGpsExtType) : Option Raised :=
  let (manager, nif) := manager.getAgpsStateMachine conf callbacks agpsType
  manager.raise nif (·.setCurrentSubscriber ⟨connHandle, agpsType == .suplEs, false⟩) .subscribe

def raisedByRelease (manager : AgpsManager) (connHandle : Int) : Option Raised :=
  (manager.findSubscriber connHandle).bind fun (nif, subscriber) =>
    manager.raise nif (·.setCurrentSubscriber subscriber) .unsubscribe

def raisedByReport (manager : AgpsManager) (conf : GpsConf) (callbacks : Callbacks)
    (agpsType : AGpsExtType) (prepare : AgpsStateMachine → AgpsStateMachine) (event : AgpsEvent) :
    Option Raised :=
  let (manager, nif) := manager.getAgpsStateMachine conf callbacks agpsType
  manager.raise nif prepare event

end AgpsManager

/-- The event an input raises. -/
def AgpsWorld.raised (world : AgpsWorld) (conf : GpsConf) (callbacks : Callbacks) :
    AgpsInput → Option Raised
  | .requestATL connHandle agpsType =>
    world.manager.raisedByRequest conf callbacks connHandle agpsType
  | .releaseATL connHandle => world.manager.raisedByRelease connHandle
  | .atlOpenSuccess agpsType apnName bearerType =>
    world.manager.raisedByReport conf callbacks agpsType
      (fun machine => (machine.setBearer bearerType).setAPN apnName) .granted
  | .atlOpenFailed agpsType => world.manager.raisedByReport conf callbacks agpsType id .denied
  | .atlClosed agpsType => world.manager.raisedByReport conf callbacks agpsType id .released
  | .dataCallOpened => world.manager.raise .ds id .granted
  | .dataCallClosed => world.manager.raise .ds id .released
  | .retryExpired => none
  | .adapterMsg =>
    world.queue.head?.bind fun msg =>
      world.manager.raisedByRequest conf callbacks msg.mConnHandle msg.mAgpsType

/-- The outputs ask the framework or the data service for a connection. -/
def requestsConnection (outputs : List AgpsOutput) : Bool :=
  outputs.any fun
    | .frameworkStatusV4 _ .requestAgpsDataConn => true
    | .dsClientOpenAndStartDataCall _ => true
    | _ => false

namespace AgpsStateMachine

/-- The reaction of a machine of either class. -/
def reaction (machine : AgpsStateMachine) (client : DsClient) (event : AgpsEvent) : Reaction :=
  machine.connection.step (machine.accepts client) machine.mCurrentSubscriber
    (machine.translated event)

/-- Whether a machine tells a notice as an open status: a `DSStateMachine` hands
over to normal SUPL instead of telling a denial. -/
def answers (machine : AgpsStateMachine) (notice : AgpsEvent × AgpsSubscriber) : Bool :=
  notice.1 == .granted || !machine.isDs && notice.1 == .denied

section Outputs
variable (machine : AgpsStateMachine) (client : DsClient)

private theorem told_answers (notice : AgpsEvent × AgpsSubscriber) :
    answered (machine.told notice) =
        (if machine.answers notice then [notice.2.mConnHandle] else []) ∧
      requestsConnection (machine.told notice) = false ∧
      (machine.isDs = false → dsEffect (machine.told notice) = .posts []) := by
  obtain ⟨event, subscriber⟩ := notice
  cases ds : machine.isDs <;> cases event <;> simp only [told, notifyOnly, ds, answers] <;>
    exact ⟨rfl, rfl, by simp <;> rfl⟩

private theorem notices_answer (notices : List (AgpsEvent × AgpsSubscriber)) :
    answered (notices.flatMap machine.told) =
        (notices.filter machine.answers).map (·.2.mConnHandle) ∧
      requestsConnection (notices.flatMap machine.told) = false ∧
      (machine.isDs = false → dsEffect (notices.flatMap machine.told) = .posts []) := by
  induction notices with
  | nil => exact ⟨rfl, rfl, fun _ => rfl⟩
  | cons notice rest ih =>
    obtain ⟨first, silent, plain⟩ := told_answers machine notice
    obtain ⟨later, quiet, plainLater⟩ := ih
    refine ⟨?_, ?_, fun base => ?_⟩
    · simp only [answered, List.flatMap_cons, List.filterMap_append] at first later ⊢
      rw [first, later, List.filter_cons]
      split <;> rfl
    · simp only [requestsConnection, List.flatMap_cons, List.any_append] at silent quiet ⊢
      rw [silent, quiet]
      rfl
    · rw [List.flatMap_cons, dsEffect_append, plain base, plainLater base]
      rfl

/-- A call for the connection answers nobody, and only a request can ask for
one. -/
private theorem call_answers_nobody (request : Bool)
    (idle : request = false → machine.getFirstSubscriber false = none) :
    answered (machine.requestOrReleaseDataConn client request).2.1 = [] ∧
      (requestsConnection (machine.requestOrReleaseDataConn client request).2.1 = true →
        request = true) ∧
      (machine.isDs = false →
        dsEffect (machine.requestOrReleaseDataConn client request).2.1 = .posts []) := by
  cases ds : machine.isDs with
  | false =>
    simp only [requestOrReleaseDataConn, ds, baseRequestOrReleaseDataConn, Bool.false_eq_true,
      if_false]
    cases request with
    | false => exact ⟨rfl, by simp [requestsConnection], fun _ => rfl⟩
    | true => exact ⟨rfl, fun _ => rfl, fun _ => rfl⟩
  | true =>
    refine ⟨?_, fun requests => ?_, by simp⟩
    · simp only [requestOrReleaseDataConn, dsRequestOrReleaseDataConn, notifyEventToSubscriber,
        notifyOnly, ds, if_true]
      split
      · rfl
      · split
        · rfl
        · split
          · rfl
          · split
            · split
              · rfl
              · split <;> rfl
            · split <;> rfl
    · by_contra releases
      have release : request = false := by simpa using releases
      subst release
      simp only [requestOrReleaseDataConn, dsRequestOrReleaseDataConn, ds, idle rfl, if_true] at requests
      split at requests <;> simp [requestsConnection] at requests

/-- What an event does at a machine of either class. -/
structure Handles (machine : AgpsStateMachine) (client : DsClient) (event : AgpsEvent)
    (result : AgpsStateMachine × List AgpsOutput) : Prop where
  isDs : result.1.isDs = machine.isDs
  connection : result.1.connection = (machine.reaction client event).after
  effect : dsEffect result.2 = if machine.isDs then
    (machine.reaction client event).dsEffect client machine.mRetries else .posts []
  answered : answered result.2 =
    ((machine.reaction client event).notices.filter machine.answers).map (·.2.mConnHandle)
  requests : requestsConnection result.2 = true →
    (machine.reaction client event).call = some true

private theorem perform_connection (reaction : Reaction) :
    (machine.perform client reaction).1.isDs = machine.isDs ∧
      (machine.perform client reaction).1.connection = reaction.after := by
  have kept : ((machine.withConnection reaction.after).afterNotices reaction.notices).isDs =
      machine.isDs ∧ ((machine.withConnection reaction.after).afterNotices
        reaction.notices).connection = reaction.after := by
    unfold afterNotices
    split <;> exact ⟨rfl, rfl⟩
  unfold perform
  cases reaction.call with
  | none => exact kept
  | some request =>
    have frame := congrArg (·.1) (((machine.withConnection reaction.after).afterNotices
      reaction.notices).requestOrReleaseDataConn_frame client request
        ((machine.withConnection reaction.after).afterNotices reaction.notices).mState)
    exact ⟨(congrArg (·.isDs) frame).trans kept.1,
      (congrArg AgpsStateMachine.connection frame).trans kept.2⟩

private theorem afterNotices_subscribers (notices : List (AgpsEvent × AgpsSubscriber)) :
    (machine.afterNotices notices).mSubscriberList = machine.mSubscriberList := by
  unfold afterNotices
  split <;> rfl

private theorem perform_answers (reaction : Reaction)
    (released : reaction.call = some false →
      Connection.firstActive reaction.after.subscribers = none) :
    answered (machine.perform client reaction).2 =
        (reaction.notices.filter machine.answers).map (·.2.mConnHandle) ∧
      (requestsConnection (machine.perform client reaction).2 = true → reaction.call = some true) ∧
      (machine.isDs = false → dsEffect (machine.perform client reaction).2 = .posts []) := by
  obtain ⟨answers, silent, plain⟩ := notices_answer machine reaction.notices
  unfold perform
  cases call : reaction.call with
  | none => exact ⟨answers, fun requests => absurd (silent.symm.trans requests) (by decide), plain⟩
  | some request =>
    obtain ⟨nobody, asks, plainCall⟩ := call_answers_nobody
      ((machine.withConnection reaction.after).afterNotices reaction.notices) client request
      (by
        rintro rfl
        rw [getFirstSubscriber, afterNotices_subscribers]
        exact released call)
    simp only
    refine ⟨?_, fun requests => ?_, fun base => ?_⟩
    · simp only [answered, List.filterMap_append] at answers nobody ⊢
      rw [answers, nobody, List.append_nil]
    · simp only [requestsConnection, List.any_append, Bool.or_eq_true] at silent asks requests
      rw [asks (requests.resolve_left (by simp [silent]))]
    · rw [dsEffect_append, plain base, plainCall (by rw [afterNotices_isDs]; exact base)]
      rfl

/-- Every event is handled so. -/
theorem processAgpsEvent_handles (event : AgpsEvent) (sound : machine.connection.Sound)
    (admits : machine.connection.Admits machine.mCurrentSubscriber event) :
    machine.Handles client event (machine.processAgpsEvent client event) := by
  have follows : machine.processAgpsEvent client event =
      machine.perform client (machine.reaction client event) :=
    machine.processAgpsEvent_follows_the_connection client event
  obtain ⟨isDs, connection⟩ := perform_connection machine client (machine.reaction client event)
  obtain ⟨answers, requests, plain⟩ := perform_answers machine client
    (machine.reaction client event)
    fun released => firstActive_eq_none (Connection.nobody_active_after_release released)
  cases ds : machine.isDs with
  | false =>
    rw [follows]
    exact ⟨isDs, connection, by rw [plain ds, ds]; rfl, answers, requests⟩
  | true =>
    have effect := (ds_event machine client event ds sound admits).2.2
    rw [← dsReaction_eq machine client event ds sound admits] at effect
    rw [follows] at effect ⊢
    exact ⟨isDs, connection, by rw [ds]; exact effect, answers, requests⟩

end Outputs

end AgpsStateMachine

end Msm8917Common.Agps
