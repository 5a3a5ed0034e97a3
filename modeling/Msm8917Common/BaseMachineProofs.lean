import Msm8917Common.Runs
import Msm8917Common.AgpsManager
import Msm8917Common.AgpsConnectionProofs

/-! The state machines for AGNSS and the internet, where every request for the
connection goes out as a command to the framework. -/
namespace Msm8917Common.Agps.BaseMachineProofs
open Runs AgpsStateMachine

/-- What reaches one base machine through the manager. -/
inductive Input where
  | requestATL (connHandle : Int) (agpsType : AGpsExtType)
  | releaseATL (connHandle : Int)
  | atlOpenSuccess (apnName : Option (List Char)) (bearerType : AGpsBearerType)
  | atlOpenFailed
  | atlClosed
  deriving DecidableEq, Repr

/-- What the history of the connection is made of: the commands to the
framework, and the reports RELEASED and DENIED that were processed. -/
inductive Item where
  | command (status : DataConn)
  | report
  deriving DecidableEq, Repr

abbrev request : Item := .command .requestAgpsDataConn

/-- The commands among the outputs of an event. -/
def commands (outputs : List AgpsOutput) : List DataConn :=
  outputs.filterMap fun
    | .frameworkStatusV4 _ status => some status
    | _ => none

/-- The handles that are told their connection is open. -/
def opened (outputs : List AgpsOutput) : List Int :=
  outputs.filterMap fun
    | .atlOpenStatus handle true _ _ _ => some handle
    | _ => none

/-- The handles that are told their connection is closed. -/
def closed (outputs : List AgpsOutput) : List Int :=
  outputs.filterMap fun
    | .atlCloseStatus handle _ => some handle
    | _ => none

/-- The machine's part of an input. A release for a handle that is not listed
does not reach the machine. -/
def receive (machine : AgpsStateMachine) (client : DsClient) :
    Input → AgpsStateMachine × List AgpsOutput
  | .requestATL connHandle agpsType => machine.requestATL client connHandle agpsType
  | .releaseATL connHandle =>
    match machine.getSubscriber connHandle with
    | none => (machine, [])
    | some subscriber => machine.releaseATL client subscriber
  | .atlOpenSuccess apnName bearerType => machine.reportAtlOpenSuccess client apnName bearerType
  | .atlOpenFailed => machine.processAgpsEvent client .denied
  | .atlClosed => machine.processAgpsEvent client .released

def Input.reports : Input → List Item
  | .atlOpenFailed => [.report]
  | .atlClosed => [.report]
  | _ => []

structure World where
  machine : AgpsStateMachine
  history : List Item

def World.start (agpsType : AGpsExtType) : World := ⟨.new agpsType, []⟩

def step (client : DsClient) (world : World) (input : Input) : World :=
  let (machine, outputs) := receive world.machine client input
  ⟨machine, world.history ++ input.reports ++ (commands outputs).map .command⟩

/-- The command that a call for the connection sends. -/
def called : Option Bool → List DataConn
  | none => []
  | some true => [.requestAgpsDataConn]
  | some false => [.releaseAgpsDataConn]

def granted (notices : List (AgpsEvent × AgpsSubscriber)) : List Int :=
  (notices.filter (·.1 == .granted)).map (·.2.mConnHandle)

def ended (notices : List (AgpsEvent × AgpsSubscriber)) : List Int :=
  (notices.filter fun notice => notice.1 == .unsubscribe || notice.1 == .released).map
    (·.2.mConnHandle)

section Perform
variable {machine : AgpsStateMachine} (client : DsClient)

/-- What the outputs of a base machine say, in terms of its reaction. -/
structure Speaks (outputs : List AgpsOutput) (reaction : Reaction) : Prop where
  commands : commands outputs = called reaction.call
  opened : opened outputs = granted reaction.notices
  closed : closed outputs = ended reaction.notices

private theorem notices_say (base : machine.isDs = false)
    (notices : List (AgpsEvent × AgpsSubscriber)) :
    commands (notices.flatMap machine.told) = [] ∧
      opened (notices.flatMap machine.told) = granted notices ∧
      closed (notices.flatMap machine.told) = ended notices := by
  induction notices with
  | nil => exact ⟨rfl, rfl, rfl⟩
  | cons notice rest ih =>
    obtain ⟨event, subscriber⟩ := notice
    obtain ⟨silent, opens, closes⟩ := ih
    simp only [commands, opened, closed, granted, ended, List.flatMap_cons,
      List.filterMap_append] at *
    rw [silent, opens, closes]
    cases event <;> simp [told, notifyOnly, base]

/-- A base machine carries out a reaction with one command for a call. -/
theorem base_perform (base : machine.isDs = false) (reaction : Reaction) :
    (machine.perform client reaction).1 = machine.withConnection reaction.after ∧
      Speaks (machine.perform client reaction).2 reaction := by
  obtain ⟨silent, opens, closes⟩ := notices_say base reaction.notices
  have kept : (machine.withConnection reaction.after).afterNotices reaction.notices =
      machine.withConnection reaction.after := by
    simp [afterNotices, withConnection, base]
  have plain : (machine.withConnection reaction.after).isDs = false := base
  cases call : reaction.call with
  | none =>
    simp only [perform, call, kept]
    exact ⟨trivial, by rw [silent, call]; rfl, opens, closes⟩
  | some request =>
    simp only [perform, call, kept, requestOrReleaseDataConn, plain,
      baseRequestOrReleaseDataConn]
    refine ⟨rfl, ?_, ?_, ?_⟩
    · simp only [commands, List.filterMap_append, call] at silent ⊢
      rw [silent]
      cases request <;> rfl
    · simpa [opened] using opens
    · simpa [closed] using closes

end Perform

/-- The event an input raises, and the subscriber it is about. -/
def raised (machine : AgpsStateMachine) : Input → Option (AgpsSubscriber × AgpsEvent)
  | .requestATL connHandle agpsType => some (⟨connHandle, agpsType == .suplEs, false⟩, .subscribe)
  | .releaseATL connHandle => (machine.getSubscriber connHandle).map (·, .unsubscribe)
  | .atlOpenSuccess _ _ => some (machine.mCurrentSubscriber, .granted)
  | .atlOpenFailed => some (machine.mCurrentSubscriber, .denied)
  | .atlClosed => some (machine.mCurrentSubscriber, .released)

/-- What an input does to a base machine, in terms of the shared connection. -/
theorem base_receive (client : DsClient) (base : machine.isDs = false) (input : Input) :
    (receive machine client input).1.isDs = false ∧
      match raised machine input with
      | none => (receive machine client input).1 = machine ∧ (receive machine client input).2 = []
      | some (current, event) =>
        (receive machine client input).1.connection =
          (machine.connection.step true current event).after ∧
        Speaks (receive machine client input).2 (machine.connection.step true current event) := by
  have performs : ∀ prepared : AgpsStateMachine, prepared.isDs = false →
      prepared.connection = machine.connection → ∀ event,
      (prepared.processAgpsEvent client event).1.isDs = false ∧
        (prepared.processAgpsEvent client event).1.connection =
          (machine.connection.step true prepared.mCurrentSubscriber event).after ∧
        Speaks (prepared.processAgpsEvent client event).2
          (machine.connection.step true prepared.mCurrentSubscriber event) := by
    intro prepared plain same event
    have untranslated : prepared.translated event = event := by simp [translated, plain]
    rw [processAgpsEvent_follows_the_connection, base_accepts prepared client plain, untranslated, same]
    obtain ⟨machineAfter, spoken⟩ := base_perform client plain
      (machine.connection.step true prepared.mCurrentSubscriber event)
    rw [machineAfter]
    exact ⟨plain, rfl, spoken⟩
  cases input with
  | requestATL connHandle agpsType =>
    exact performs (machine.setCurrentSubscriber ⟨connHandle, agpsType == .suplEs, false⟩) base rfl
      .subscribe
  | releaseATL connHandle =>
    cases found : machine.getSubscriber connHandle with
    | none => simp [receive, raised, found, base]
    | some subscriber =>
      simp only [receive, raised, found, Option.map_some]
      exact performs (machine.setCurrentSubscriber subscriber) base rfl .unsubscribe
  | atlOpenSuccess apnName bearerType =>
    exact performs ((machine.setBearer bearerType).setAPN apnName) base rfl .granted
  | atlOpenFailed => exact performs machine base rfl .denied
  | atlClosed => exact performs machine base rfl .released

theorem getSubscriber_mem {machine : AgpsStateMachine} {subscriber : AgpsSubscriber}
    (found : machine.getSubscriber connHandle = some subscriber) :
    subscriber ∈ machine.mSubscriberList ∧ subscriber.mConnHandle = connHandle := by
  unfold getSubscriber at found
  exact ⟨List.mem_of_find?_eq_some found, by simpa using List.find?_some found⟩

theorem raised_admits {machine : AgpsStateMachine} {current : AgpsSubscriber}
    (event : raised machine input = some (current, raisedEvent)) :
    machine.connection.Admits current raisedEvent := by
  cases input with
  | releaseATL connHandle =>
    simp only [raised, Option.map_eq_some_iff] at event
    obtain ⟨subscriber, found, same⟩ := event
    cases same
    exact (getSubscriber_mem found).1
  | _ => cases event; trivial

/-- Between two requests the connection was given up or reported down. -/
def Spaced (history : List Item) : Prop :=
  ∀ before between after, history = before ++ request :: between ++ request :: after →
    ∃ item ∈ between, item ≠ request

section Spaced
variable {history : List Item}

/-- What may be added to a history that ends in `item`. -/
private theorem spaced_append_one (spaced : Spaced history)
    (fresh : item = request → history.getLast? ≠ some request) : Spaced (history ++ [item]) := by
  intro before between after split
  rcases List.eq_nil_or_concat after with rfl | ⟨earlier, last, rfl⟩
  · obtain ⟨same, isRequest⟩ : history = before ++ request :: between ∧ [item] = [request] :=
      List.append_inj' (by simpa using split) rfl
    have notLast := fresh (List.singleton_inj.mp isRequest)
    by_contra all
    push Not at all
    rcases List.eq_nil_or_concat between with rfl | ⟨init, final, rfl⟩
    · exact notLast (by simp [same])
    · rw [List.concat_eq_append] at same all
      exact notLast (by rw [same, all final (by simp)]; simp [List.getLast?_cons])
  · obtain ⟨same, _⟩ : history = before ++ request :: between ++ request :: earlier ∧
        [item] = [last] := List.append_inj' (by simpa using split) rfl
    exact spaced before between earlier same

private theorem spaced_append_reports (spaced : Spaced history) (input : Input) :
    Spaced (history ++ input.reports) := by
  cases input with
  | atlOpenFailed => exact spaced_append_one spaced (by simp)
  | atlClosed => exact spaced_append_one spaced (by simp)
  | _ => simpa [Input.reports] using spaced

end Spaced

/-- What holds of a base machine and its history between inputs. -/
structure Inv (world : World) : Prop where
  base : world.machine.isDs = false
  sound : world.machine.connection.Sound
  releasedEmpty : world.machine.connection.state = .released →
    world.machine.connection.subscribers = []
  spaced : Spaced world.history
  quiet : world.machine.connection.Quiet → world.history.getLast? ≠ some request

private theorem start_inv (agpsType : AGpsExtType) : Inv (.start agpsType) where
  base := rfl
  sound := Connection.empty_sound
  releasedEmpty := fun _ => rfl
  spaced := by intro before between after split; simp [World.start] at split
  quiet := by simp [World.start]

private theorem last_after_reports {history : List Item} (input : Input)
    (fresh : history.getLast? ≠ some request) :
    (history ++ input.reports).getLast? ≠ some request := by
  cases input with
  | atlOpenFailed => simp [Input.reports]
  | atlClosed => simp [Input.reports]
  | _ => simpa [Input.reports] using fresh

private theorem unreported {machine : AgpsStateMachine} {current : AgpsSubscriber}
    {event : AgpsEvent} (raises : raised machine input = some (current, event))
    (none_reported : input.reports = []) : event ≠ .released ∧ event ≠ .denied := by
  cases input with
  | atlOpenFailed => cases none_reported
  | atlClosed => cases none_reported
  | releaseATL connHandle =>
    simp only [raised, Option.map_eq_some_iff] at raises
    obtain ⟨_, _, same⟩ := raises
    cases same
    decide
  | requestATL => cases raises; decide
  | atlOpenSuccess => cases raises; decide

private theorem reported_last (history : List Item) (input : Input)
    (reported : input.reports ≠ []) :
    (history ++ input.reports).getLast? ≠ some request := by
  cases input <;> simp [Input.reports] at reported ⊢

private theorem step_inv (client : DsClient) (world : World) (input : Input) (inv : Inv world) :
    Inv (step client world input) := by
  obtain ⟨base, received⟩ := base_receive client inv.base input
  cases raises : raised world.machine input with
  | none =>
    rw [raises] at received
    have ignored : step client world input = world := by
      cases input with
      | releaseATL => simp [step, received.1, received.2, commands, Input.reports]
      | _ => cases raises
    rwa [ignored]
  | some pair =>
    obtain ⟨current, event⟩ := pair
    rw [raises] at received
    obtain ⟨connectionAfter, spoken⟩ := received
    have history : (step client world input).history = world.history ++ input.reports ++
        (called (world.machine.connection.step true current event).call).map .command := by
      simp only [step, spoken.commands]
    have state : (step client world input).machine.connection =
      (world.machine.connection.step true current event).after := connectionAfter
    refine ⟨base, ?_, ?_, ?_, ?_⟩
    · rw [state]
      exact Connection.step_sound inv.sound (raised_admits raises) true
    · rw [state]
      exact Connection.step_keeps_released_empty inv.releasedEmpty
    · rw [history]
      have reported := spaced_append_reports inv.spaced input
      cases call : (world.machine.connection.step true current event).call with
      | none => simpa [called] using reported
      | some request =>
        cases request with
        | true =>
          have quiet := Connection.request_while_quiet call
          exact spaced_append_one reported fun _ => last_after_reports input (inv.quiet quiet)
        | false => exact spaced_append_one reported (by simp)
    · rw [history, state]
      intro quiet
      cases call : (world.machine.connection.step true current event).call with
      | none =>
        by_cases reported : input.reports = []
        · obtain ⟨released, denied⟩ := unreported raises reported
          simpa [called, reported] using
            inv.quiet (Connection.quiet_before call released denied quiet)
        · simpa [called] using reported_last world.history input reported
      | some request =>
        cases request with
        | true => exact absurd quiet (Connection.not_quiet_after_request call)
        | false => simp [called]

/-- The machine for AGNSS or the internet, under any requests, releases and
reports: nobody is listed in `RELEASED`; somebody is active in `PENDING` and in
`ACQUIRED`; somebody waits for the close in `RELEASING`; handles are listed
once; and no request follows another without a release or a report that the
connection is down in between. -/
theorem base_machine_invariant (client : DsClient) (agpsType : AGpsExtType) (inputs : List Input) :
    ∀ world ∈ states (step client) (.start agpsType) inputs,
      (world.machine.mState = .released → world.machine.mSubscriberList = []) ∧
      (world.machine.mState = .pending ∨ world.machine.mState = .acquired →
        ∃ subscriber ∈ world.machine.mSubscriberList, subscriber.mIsInactive = false) ∧
      (world.machine.mState = .releasing →
        ∃ subscriber ∈ world.machine.mSubscriberList, subscriber.mIsInactive = true) ∧
      (world.machine.mSubscriberList.map (·.mConnHandle)).Nodup ∧
      ∀ before between after,
        world.history = before ++ request :: between ++ request :: after →
          ∃ item ∈ between, item ≠ request := by
  intro world visited
  have inv := invariant_states (step_inv client) inputs (start_inv agpsType) world visited
  refine ⟨inv.releasedEmpty, ?_, ?_, inv.sound.distinct, inv.spaced⟩
  · intro connected
    obtain ⟨_, subscriber, held, _, active⟩ := inv.sound.connected connected
    exact ⟨subscriber, held, active⟩
  · intro releasing
    obtain ⟨_, subscriber, held, _, inactive⟩ := inv.sound.releasing releasing
    exact ⟨subscriber, held, inactive⟩

/-- After an emergency request on the AGNSS machine and the grant, a release
leaves the subscriber waiting for the close. -/
theorem base_machine_invariant_while_releasing :
    ∃ subscriber ∈ ([Input.requestATL 7 .suplEs, .atlOpenSuccess none .invalid, .releaseATL 7].foldl
        (step ⟨none, false, false⟩) (.start .supl)).machine.mSubscriberList,
      subscriber.mIsInactive = true :=
  (base_machine_invariant ⟨none, false, false⟩ .supl
    [.requestATL 7 .suplEs, .atlOpenSuccess none .invalid, .releaseATL 7] _
    (by simp [states])).2.2.1 (by decide)

end Msm8917Common.Agps.BaseMachineProofs
