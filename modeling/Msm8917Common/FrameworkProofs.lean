import Msm8917Common.BaseMachineProofs

/-! A base machine and the framework. Answers carry no identity, so a grant for
a request that was cancelled counts for the next one; the release that follows
it then looks like a forced close. -/
namespace Msm8917Common.Agps.FrameworkProofs
open Runs AgpsStateMachine BaseMachineProofs

inductive Answer where
  | granted | released
  deriving DecidableEq, Repr

/-- The one answer of the framework to a command. -/
def Answer.to : DataConn → Answer
  | .requestAgpsDataConn => .granted
  | .releaseAgpsDataConn => .released

/-- The machine, the commands and answers in flight, whether the framework's
connection is up, and the handles that were told their connection is open and
have not been released since. -/
structure Link where
  machine : AgpsStateMachine
  commands : List DataConn
  answers : List Answer
  up : Bool
  told : List Int

def Link.start (agpsType : AGpsExtType) : Link := ⟨.new agpsType, [], [], false, []⟩

inductive Move where
  | requestATL (connHandle : Int) (agpsType : AGpsExtType)
  | releaseATL (connHandle : Int)
  | answer
  | deliver (apnName : Option (List Char)) (bearerType : AGpsBearerType)
  deriving DecidableEq, Repr

/-- The part of a move before the machine runs, and what then reaches it. The
framework carries out its next command, or its next answer is taken. -/
def prepare (link : Link) : Move → Link × Option Input
  | .requestATL connHandle agpsType => (link, some (.requestATL connHandle agpsType))
  | .releaseATL connHandle =>
    ({ link with told := link.told.filter (· ≠ connHandle) }, some (.releaseATL connHandle))
  | .answer =>
    match link.commands with
    | [] => (link, none)
    | command :: rest =>
      ({ link with
          commands := rest
          answers := link.answers ++ [.to command]
          up := command == .requestAgpsDataConn }, none)
  | .deliver apnName bearerType =>
    match link.answers with
    | [] => (link, none)
    | .granted :: rest =>
      ({ link with answers := rest }, some (.atlOpenSuccess apnName bearerType))
    | .released :: rest => ({ link with answers := rest }, some .atlClosed)

/-- The machine takes an input. -/
def receive (client : DsClient) (link : Link) (input : Input) : Link :=
  let (machine, outputs) := BaseMachineProofs.receive link.machine client input
  { link with
    machine := machine
    commands := link.commands ++ commands outputs
    told := link.told ++ opened outputs }

def step (client : DsClient) (link : Link) (move : Move) : Link :=
  match prepare link move with
  | (link, none) => link
  | (link, some input) => receive client link input

/-- The handles that a move tells their connection is closed. -/
def closedBy (client : DsClient) (link : Link) (move : Move) : List Int :=
  match prepare link move with
  | (_, none) => []
  | (link, some input) => closed (BaseMachineProofs.receive link.machine client input).2

/-- No handle that was told its connection is open is sent a close, unless it
has been released. -/
def NoUnaskedClose (client : DsClient) (link : Link) (move : Move) : Prop :=
  ∀ handle ∈ closedBy client link move, handle ∉ (prepare link move).1.told

/-- With nothing in flight, the connection is up exactly in `ACQUIRED`. -/
def Agrees (link : Link) : Prop :=
  link.commands = [] → link.answers = [] → (link.up = true ↔ link.machine.mState = .acquired)

instance (client : DsClient) (link : Link) (move : Move) :
    Decidable (NoUnaskedClose client link move) :=
  inferInstanceAs (Decidable (∀ handle ∈ closedBy client link move, _))

instance (link : Link) : Decidable (Agrees link) :=
  inferInstanceAs (Decidable (_ → _ → _))

/-- A RELEASED answer does not meet a machine in `ACQUIRED`, and in `RELEASING`
it meets none that waits for the close and was told since that it is open. -/
def Untangled (link : Link) (move : Move) : Prop :=
  (prepare link move).2 = some .atlClosed →
    link.machine.mState ≠ .acquired ∧
      (link.machine.mState = .releasing → ∀ subscriber ∈ link.machine.mSubscriberList,
        subscriber.mIsInactive = true → subscriber.mConnHandle ∉ link.told)

/-- The answers the machine will get for what it has sent so far. -/
def Link.outstanding (link : Link) : List Answer := link.answers ++ link.commands.map .to

/-- Whether the connection will be up once every command is carried out. -/
def Link.willBeUp (link : Link) : Bool :=
  (link.commands.getLast?.map (· == .requestAgpsDataConn)).getD link.up

/-- What an untangled run leaves. -/
structure Good (link : Link) : Prop where
  base : link.machine.isDs = false
  sound : link.machine.connection.Sound
  final : link.willBeUp = true ↔ ¬ link.machine.connection.Quiet
  pending : link.machine.connection.state = .pending → link.outstanding.getLast? = some .granted
  acquired : link.machine.connection.state = .acquired → ∀ handle,
    Connection.HoldsActive link.machine.connection.subscribers handle → handle ∈ link.told

/-- What a prepared link offers the machine's step. -/
structure Ready (link : Link) (input : Input) : Prop where
  base : link.machine.isDs = false
  sound : link.machine.connection.Sound
  final : link.willBeUp = true ↔ ¬ link.machine.connection.Quiet
  pending : link.machine.connection.state = .pending →
    (∃ apnName bearerType, input = .atlOpenSuccess apnName bearerType) ∨
      link.outstanding.getLast? = some .granted
  acquired : link.machine.connection.state = .acquired → ∀ handle,
    Connection.HoldsActive link.machine.connection.subscribers handle →
      handle ∈ link.told ∨ input = .releaseATL handle
  answered : input ≠ .atlOpenFailed
  unforced : input = .atlClosed → link.machine.connection.state ≠ .acquired

private theorem granted_of_mem {notices : List (AgpsEvent × AgpsSubscriber)}
    (told : (.granted, subscriber) ∈ notices) : subscriber.mConnHandle ∈ granted notices := by
  simp only [granted, List.mem_map, List.mem_filter]
  exact ⟨_, ⟨told, rfl⟩, rfl⟩

section Receive
variable {link : Link} {input : Input}

private theorem willBeUp_append (commands : List DataConn) (machine : AgpsStateMachine)
    (told : List Int) :
    Link.willBeUp { link with
        machine := machine, commands := link.commands ++ commands, told := told } =
      (commands.getLast?.map (· == .requestAgpsDataConn)).getD link.willBeUp := by
  rcases List.eq_nil_or_concat commands with rfl | ⟨init, last, rfl⟩
  · simp [Link.willBeUp]
  · simp [Link.willBeUp, ← List.append_assoc]

private theorem release_raises {machine : AgpsStateMachine} {current : AgpsSubscriber}
    (raises : raised machine (.releaseATL handle) = some (current, event)) :
    event = .unsubscribe ∧ current.mConnHandle = handle := by
  simp only [raised, Option.map_eq_some_iff] at raises
  obtain ⟨subscriber, found, same⟩ := raises
  cases same
  exact ⟨rfl, (getSubscriber_mem found).2⟩

private theorem raised_none {machine : AgpsStateMachine} (silent : raised machine input = none) :
    ∃ handle, input = .releaseATL handle ∧ ¬ Connection.Listed machine.mSubscriberList handle := by
  cases input with
  | releaseATL handle =>
    refine ⟨handle, rfl, ?_⟩
    rintro ⟨subscriber, held, same⟩
    simp only [raised, Option.map_eq_none_iff, getSubscriber, List.find?_eq_none] at silent
    exact silent subscriber held (by simpa using same)
  | _ => cases silent

private theorem receive_ignored (client : DsClient) (ready : Ready link input)
    (silent : raised link.machine input = none) : receive client link input = link := by
  obtain ⟨_, received⟩ := base_receive client ready.base input
  rw [silent] at received
  simp [receive, received.1, received.2, commands, opened]

/-- No request of the machine has failed. -/
private theorem Ready.raises_no_denied (ready : Ready link input)
    (raises : raised link.machine input = some (current, event)) : event ≠ .denied := by
  rintro rfl
  cases input with
  | atlOpenFailed => exact ready.answered rfl
  | releaseATL => exact absurd (release_raises raises).1 (by decide)
  | _ => cases raises

/-- The connection goes down only once it is given up. -/
private theorem Ready.raises_released (ready : Ready link input)
    (raises : raised link.machine input = some (current, event)) (released : event = .released) :
    link.machine.connection.state ≠ .acquired := by
  subst released
  cases input with
  | atlClosed => exact ready.unforced rfl
  | releaseATL => exact absurd (release_raises raises).1 (by decide)
  | _ => cases raises

/-- The machine keeps what an untangled run leaves. -/
private theorem receive_good (client : DsClient) (ready : Ready link input) :
    Good (receive client link input) := by
  obtain ⟨base, received⟩ := base_receive client ready.base input
  cases raises : raised link.machine input with
  | none =>
    obtain ⟨handle, rfl, absent⟩ := raised_none raises
    rw [receive_ignored client ready raises]
    refine ⟨ready.base, ready.sound, ready.final, ?_, ?_⟩
    · intro pending
      exact (ready.pending pending).resolve_left (by rintro ⟨_, _, ⟨⟩⟩)
    · intro acquired other active
      apply (ready.acquired acquired other active).resolve_right
      rintro ⟨⟩
      exact absent (Connection.listed_iff.mpr (.inl active))
  | some pair =>
    obtain ⟨current, event⟩ := pair
    rw [raises] at received
    obtain ⟨connectionAfter, spoken⟩ := received
    have admits := raised_admits raises
    have denied := ready.raises_no_denied raises
    have unforced := ready.raises_released raises
    have state : (receive client link input).machine.connection =
      (link.machine.connection.step true current event).after := connectionAfter
    have after : receive client link input =
        { link with
          machine := (BaseMachineProofs.receive link.machine client input).1
          commands := link.commands ++ called (link.machine.connection.step true current event).call
          told := link.told ++ granted (link.machine.connection.step true current event).notices } := by
      simp only [receive, spoken.commands, spoken.opened]
    refine ⟨base, ?_, ?_, ?_, ?_⟩
    · rw [state]
      exact Connection.step_sound ready.sound admits true
    · rw [state, after, willBeUp_append]
      cases call : (link.machine.connection.step true current event).call with
      | none =>
        rw [Connection.quiet_iff call unforced denied]
        simpa [called] using ready.final
      | some request =>
        cases request with
        | true => simpa [called] using Connection.not_quiet_after_request call
        | false => simpa [called] using Connection.quiet_after_release call
    · rw [state, after]
      intro pending
      rcases Connection.pending_after pending with call | ⟨call, before, ungranted⟩
      · simp [Link.outstanding, call, called, Answer.to]
      · have last := (ready.pending before).resolve_left (by
          rintro ⟨apnName, bearerType, rfl⟩
          cases raises
          exact ungranted rfl)
        simpa [Link.outstanding, call, called] using last
    · rw [state, after]
      intro acquired handle active
      rw [List.mem_append]
      rcases Connection.active_in_acquired ready.sound admits acquired active with
        ⟨subscriber, told, rfl⟩ | ⟨before, held, other⟩
      · exact .inr (granted_of_mem told)
      · refine .inl ((ready.acquired before handle held).resolve_right ?_)
        rintro rfl
        obtain ⟨unsubscribed, same⟩ := release_raises raises
        exact other unsubscribed same.symm

end Receive

section Step
variable {link : Link} {move : Move}

private theorem last_of_cons {first last : Answer} {rest : List Answer}
    (ends : (first :: rest).getLast? = some last) (other : first ≠ last) :
    rest.getLast? = some last := by
  rw [List.getLast?_cons] at ends
  cases final : rest.getLast? with
  | none => simp [final, other] at ends
  | some answer => simpa [final] using ends

/-- The framework's own step changes nothing that the machine will see. -/
private theorem answer_good (good : Good link) : Good (prepare link .answer).1 := by
  cases queued : link.commands with
  | nil => simpa only [prepare, queued] using good
  | cons command rest =>
    simp only [prepare, queued]
    refine ⟨good.base, good.sound, ?_, ?_, good.acquired⟩
    · rw [← good.final]
      rcases List.eq_nil_or_concat rest with rfl | ⟨init, last, rfl⟩ <;>
        simp [Link.willBeUp, queued, List.getLast?_cons]
    · intro pending
      simpa [Link.outstanding, queued] using good.pending pending

/-- What reaches the machine reaches it in good order. -/
private theorem prepared_ready (good : Good link) (untangled : Untangled link move)
    (reaches : (prepare link move).2 = some input) : Ready (prepare link move).1 input := by
  cases move with
  | requestATL connHandle agpsType =>
    cases reaches
    exact ⟨good.base, good.sound, good.final, fun pending => .inr (good.pending pending),
      fun acquired handle active => .inl (good.acquired acquired handle active), by simp, by simp⟩
  | releaseATL connHandle =>
    cases reaches
    refine ⟨good.base, good.sound, good.final, fun pending => .inr (good.pending pending), ?_,
      by simp, by simp⟩
    intro acquired handle active
    by_cases released : handle = connHandle
    · exact .inr (by rw [released])
    · exact .inl (by simpa [prepare, released] using good.acquired acquired handle active)
  | answer =>
    cases queued : link.commands <;> simp [prepare, queued] at reaches
  | deliver apnName bearerType =>
    cases waiting : link.answers with
    | nil => simp [prepare, waiting] at reaches
    | cons answer rest =>
      cases answer with
      | granted =>
        simp only [prepare, waiting, Option.some.injEq] at reaches ⊢
        cases reaches
        exact ⟨good.base, good.sound, good.final, fun _ => .inl ⟨_, _, rfl⟩,
          fun acquired handle active => .inl (good.acquired acquired handle active), by simp,
          by simp⟩
      | released =>
        have unforced := (untangled (by simp [prepare, waiting])).1
        simp only [prepare, waiting, Option.some.injEq] at reaches ⊢
        cases reaches
        refine ⟨good.base, good.sound, good.final, ?_,
          fun acquired handle active => .inl (good.acquired acquired handle active), by simp,
          fun _ => unforced⟩
        intro pending
        refine .inr (last_of_cons ?_ (by decide : Answer.released ≠ .granted))
        simpa [Link.outstanding, waiting] using good.pending pending

private theorem step_good (client : DsClient) (good : Good link) (untangled : Untangled link move) :
    Good (step client link move) := by
  unfold step
  cases reaches : prepare link move with
  | mk prepared input =>
    cases input with
    | some input =>
      have ready : Ready (prepare link move).1 input :=
        prepared_ready good untangled (by rw [reaches])
      rw [reaches] at ready
      exact receive_good client ready
    | none =>
      cases move with
      | answer =>
        have answered := answer_good good
        rwa [reaches] at answered
      | deliver =>
        have same : prepared = link := by
          unfold prepare at reaches
          grind
        rwa [same]
      | _ => cases reaches

private theorem start_good (agpsType : AGpsExtType) : Good (.start agpsType) where
  base := rfl
  sound := Connection.empty_sound
  final := by simp [Link.start, Link.willBeUp, AgpsStateMachine.new, connection, Connection.Quiet]
  pending := by simp [Link.start, AgpsStateMachine.new, connection]
  acquired := by simp [Link.start, AgpsStateMachine.new, connection]

private theorem good_agrees (good : Good link) : Agrees link := by
  intro none_sent none_waiting
  have final := good.final
  have last := good.pending
  simp only [Link.willBeUp, Link.outstanding, none_sent, none_waiting, Connection.Quiet,
    connection] at final last
  cases state : link.machine.mState <;> simp_all

end Step

section Closes
variable {connection : Connection} {current : AgpsSubscriber} {accepted : Bool}

private theorem subscribe_ends_nothing :
    ended (connection.step accepted current .subscribe).notices = [] := by
  cases state : connection.state <;> simp [Connection.step, state, ended]

private theorem granted_ends_nothing :
    ended (connection.step accepted current .granted).notices = [] := by
  have granted_only : ∀ subscribers, ended (Connection.tell .granted subscribers) = [] := by
    intro subscribers
    induction subscribers with
    | nil => rfl
    | cons subscriber rest ih => simp [ended, Connection.tell]
  cases state : connection.state <;> simp [Connection.step, state, granted_only] <;> rfl

private theorem unsubscribe_ends_current
    (told : handle ∈ ended (connection.step accepted current .unsubscribe).notices) :
    handle = current.mConnHandle := by
  have left : handle ∈ ended (Connection.leaveNotices current) → handle = current.mConnHandle := by
    unfold Connection.leaveNotices ended
    split <;> simp
  cases state : connection.state with
  | released => simpa [Connection.step, state, ended] using told
  | _ =>
    simp only [Connection.step, state] at told
    grind

private theorem released_ends_listed :
    handle ∈ ended (connection.step accepted current .released).notices ↔
      connection.state = .acquired ∧ Connection.Listed connection.subscribers handle ∨
      connection.state = .releasing ∧ Connection.HoldsInactive connection.subscribers handle := by
  have mem_tell : ∀ subscribers, handle ∈ ended (Connection.tell .released subscribers) ↔
      ∃ subscriber ∈ subscribers, subscriber.mConnHandle = handle := by
    intro subscribers
    simp [ended, Connection.tell, List.filter_map, Function.comp_def]
  cases state : connection.state with
  | acquired => simp [Connection.step, state, mem_tell, Connection.Listed]
  | releasing =>
    simp only [Connection.step, state, Connection.closed, mem_tell, Connection.HoldsInactive]
    grind
  | _ => simp [Connection.step, state, ended]

end Closes

/-- On a link that was untangled so far, a move sends no unasked close exactly
if it is untangled too. -/
private theorem no_unasked_close_iff (client : DsClient) (link : Link) (move : Move)
    (good : Good link) : NoUnaskedClose client link move ↔ Untangled link move := by
  have closes : ∀ input current event, raised link.machine input = some (current, event) →
      closed (BaseMachineProofs.receive link.machine client input).2 =
        ended (link.machine.connection.step true current event).notices := by
    intro input current event raises
    have received := (base_receive client good.base input).2
    rw [raises] at received
    exact received.2.closed
  cases move with
  | requestATL connHandle agpsType =>
    have nothing := closes (.requestATL connHandle agpsType) _ _ rfl
    simp [NoUnaskedClose, Untangled, closedBy, prepare, nothing, subscribe_ends_nothing]
  | releaseATL connHandle =>
    refine iff_of_true ?_ (by simp [Untangled, prepare])
    intro handle told
    cases raises : raised link.machine (.releaseATL connHandle) with
    | none =>
      have received := (base_receive client good.base (.releaseATL connHandle)).2
      rw [raises] at received
      simp [closedBy, prepare, received.2, closed] at told
    | some pair =>
      obtain ⟨current, event⟩ := pair
      obtain ⟨rfl, rfl⟩ := release_raises raises
      simp only [closedBy, prepare, closes _ _ _ raises] at told
      simp [prepare, unsubscribe_ends_current told]
  | answer =>
    cases queued : link.commands <;>
      simp [NoUnaskedClose, Untangled, closedBy, prepare, queued]
  | deliver apnName bearerType =>
    cases waiting : link.answers with
    | nil => simp [NoUnaskedClose, Untangled, closedBy, prepare, waiting]
    | cons answer rest =>
      cases answer with
      | granted =>
        have nothing := closes (.atlOpenSuccess apnName bearerType) _ _ rfl
        simp [NoUnaskedClose, Untangled, closedBy, prepare, waiting, nothing, granted_ends_nothing]
      | released =>
        simp only [NoUnaskedClose, Untangled, closedBy, prepare, waiting,
          closes .atlClosed _ _ rfl, released_ends_listed, forall_const]
        constructor
        · intro unasked
          refine ⟨fun acquired => ?_, fun releasing subscriber held inactive => ?_⟩
          · obtain ⟨handle, active⟩ := good.sound.connected (.inr acquired)
            exact unasked handle (.inl ⟨acquired, Connection.listed_iff.mpr (.inl active)⟩)
              (good.acquired acquired handle active)
          · exact unasked _ (.inr ⟨releasing, subscriber, held, rfl, inactive⟩)
        · rintro ⟨unforced, waits⟩ handle (⟨acquired, _⟩ | ⟨releasing, subscriber, held, rfl, inactive⟩)
          · exact absurd acquired unforced
          · exact waits releasing subscriber held inactive

/-- Over any interleaving, every close was asked for and the framework agrees
with the machine whenever nothing is in flight, exactly if no RELEASED answer
meets `ACQUIRED`, nor, in `RELEASING`, a subscriber that waits for the close
and was told since that it is open. -/
theorem framework_agrees_iff_untangled (client : DsClient) (agpsType : AGpsExtType)
    (moves : List Move) :
    ((∀ taken ∈ steps (step client) (.start agpsType) moves,
        NoUnaskedClose client taken.1 taken.2) ∧
      ∀ link ∈ states (step client) (.start agpsType) moves, Agrees link) ↔
      ∀ taken ∈ steps (step client) (.start agpsType) moves, Untangled taken.1 taken.2 := by
  have events := events_iff_each_step
    (fun link move (good : Good link) untangled => step_good client good untangled)
    (fun link move good => no_unasked_close_iff client link move good) moves (start_good agpsType)
  rw [events]
  refine ⟨And.left, fun untangled => ⟨untangled, fun link visited => ?_⟩⟩
  exact good_agrees (invariant_while (fun _ _ good met => step_good client good met) moves
    (start_good agpsType) untangled link visited)

/-- Handle 1 gives up before its grant arrives. The grant then counts for
handle 2, whose connection is closed by the answer to the release; the grant
for handle 2 itself finds the machine in `RELEASED`. -/
theorem late_grant_opens_the_next_connection :
    let moves : List Move := [.requestATL 1 .supl, .releaseATL 1, .requestATL 2 .supl, .answer,
      .answer, .answer, .deliver none .invalid, .deliver none .invalid, .deliver none .invalid]
    let client : DsClient := ⟨none, false, false⟩
    (∃ taken ∈ steps (step client) (.start .supl) moves, ¬ NoUnaskedClose client taken.1 taken.2) ∧
      ∃ link ∈ states (step client) (.start .supl) moves, ¬ Agrees link := by
  decide

end Msm8917Common.Agps.FrameworkProofs
