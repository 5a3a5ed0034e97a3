import Msm8917Common.GnssMultiplexers
import Msm8917Common.GnssTrackingProofs

/-! Whose mode the engine runs. A restart takes the mode of a session with the
smallest interval; where the intervals tie there is no restart, and the engine goes
on with the mode of a session that may just have been stopped or updated. -/
namespace Msm8917Common.Gnss.FixModeProofs
open Runs LocationSessionMap Multiplexers TrackingProofs

/-- The engine runs no fix, or that of a session with the smallest interval. -/
def ModeOf (fix : Option LocPosMode) (sessions : LocationSessionMap) : Prop :=
  ∀ mode ∈ fix, ∃ (key : LocationSessionKey) (options : LocationOptions),
    sessions[key]? = some options ∧
      IsLeast (sessions.intervals nothing) options.minInterval ∧ mode = convertOptions options

def ModeLive (adapter : GnssAdapter) : Prop :=
  ModeOf adapter.mLocApi.fix adapter.mTrackingSessions

/-- The mode in effect is that of a session other than one, or of the options that
take the place of that one's. -/
def Backed (fix : Option LocPosMode) (sessions : LocationSessionMap) (key : LocationSessionKey)
    (new : Option LocationOptions) : Prop :=
  ∀ mode ∈ fix, (∃ options ∈ new, mode = convertOptions options) ∨
    ∃ other ≠ key, ∃ options : LocationOptions, sessions[other]? = some options ∧
      mode = convertOptions options

section Sessions
variable {sessions next : LocationSessionMap} {fix : Option LocPosMode}
  {key : LocationSessionKey} {old options : LocationOptions}

theorem intervals_only_subset : sessions.intervals (only key) ⊆ sessions.intervals nothing := by
  rintro _ ⟨other, options, -, live, rfl⟩
  exact ⟨other, options, rfl, live, rfl⟩

/-- No session asks for less than the engine runs with. -/
theorem ModeOf.lower (modeOf : ModeOf fix sessions) {mode : LocPosMode} (running : mode ∈ fix) :
    mode.min_interval ∈ lowerBounds (sessions.intervals nothing) := by
  obtain ⟨_, options, -, least, rfl⟩ := modeOf mode running
  exact least.2

/-- Where no session asks for less than the engine runs with, any session with the
mode has the smallest interval. -/
theorem modeOf_iff_of_lower
    (lower : ∀ mode ∈ fix, mode.min_interval ∈ lowerBounds (next.intervals nothing)) :
    ModeOf fix next ↔ ∀ mode ∈ fix, ∃ (key : LocationSessionKey) (options : LocationOptions),
      next[key]? = some options ∧ mode = convertOptions options := by
  constructor
  · intro modeOf mode running
    obtain ⟨key, options, live, -, same⟩ := modeOf mode running
    exact ⟨key, options, live, same⟩
  · intro has mode running
    obtain ⟨key, options, live, rfl⟩ := has mode running
    exact ⟨key, options, live, ⟨⟨key, options, rfl, live, rfl⟩, lower _ running⟩, rfl⟩

theorem modeOf_insert_iff (modeOf : ModeOf fix sessions)
    (larger : ∀ mode ∈ fix, mode.min_interval ≤ options.minInterval) :
    ModeOf fix (sessions.insert key options) ↔ Backed fix sessions key (some options) := by
  rw [modeOf_iff_of_lower]
  · refine forall₂_congr fun mode _ => ?_
    constructor
    · rintro ⟨other, held, live, same⟩
      rw [getElem?_insert] at live
      split at live
      · cases live
        exact .inl ⟨options, rfl, same⟩
      · next differs => exact .inr ⟨other, differs, held, live, same⟩
    · rintro (⟨_, ⟨⟩, same⟩ | ⟨other, differs, held, live, same⟩)
      · exact ⟨key, options, by rw [getElem?_insert, if_pos rfl], same⟩
      · exact ⟨other, held, by rw [getElem?_insert, if_neg differs, live], same⟩
  · intro mode running
    rw [intervals_insert]
    rintro interval (rfl | held)
    · exact larger mode running
    · exact modeOf.lower running (intervals_only_subset held)

theorem modeOf_erase_iff (modeOf : ModeOf fix sessions) :
    ModeOf fix (sessions.erase key) ↔ Backed fix sessions key none := by
  rw [modeOf_iff_of_lower]
  · refine forall₂_congr fun mode _ => ?_
    constructor
    · rintro ⟨other, held, live, same⟩
      rw [getElem?_erase] at live
      split at live
      · cases live
      · next differs => exact .inr ⟨other, differs, held, live, same⟩
    · rintro (⟨_, ⟨⟩, -⟩ | ⟨other, differs, held, live, same⟩)
      exact ⟨other, held, by rw [getElem?_erase, if_neg differs, live], same⟩
  · intro mode running
    rw [intervals_erase]
    exact fun interval held => modeOf.lower running (intervals_only_subset held)

/-- A fix that new options ask for is theirs, where nobody asks for less. -/
theorem modeOf_new (smaller : ∀ interval ∈ sessions.intervals (only key),
      options.minInterval ≤ interval) :
    ModeOf (some (convertOptions options)) (sessions.insert key options) := by
  rintro _ ⟨⟩
  refine ⟨key, options, by rw [getElem?_insert, if_pos rfl], ?_, rfl⟩
  rw [intervals_insert]
  refine ⟨Set.mem_insert _ _, ?_⟩
  rintro interval (rfl | held)
  · exact Nat.le_refl _
  · exact smaller interval held

/-- A restart before a start takes the mode of the new session. -/
theorem startCall_modeOf (sized : sessions.Sized) (asks : startCall sessions options = some fix)
    (key : LocationSessionKey) : ModeOf fix (sessions.insert key options) := by
  unfold startCall at asks
  split at asks
  · next empty =>
    cases asks
    apply modeOf_new
    intro interval held
    have none := no_sessions_iff.mp empty
    exact absurd (intervals_only_subset held) (none ▸ Set.notMem_empty interval)
  · next filled =>
    split at asks
    · next smaller =>
      cases asks
      apply modeOf_new
      intro interval held
      have least := (smallest_of_filled sized filled).2
      have lower := least.2 (intervals_only_subset held)
      omega
    · cases asks

/-- Without a restart nobody asks for less than before. -/
theorem startCall_none (sized : sessions.Sized) (modeOf : ModeOf fix sessions)
    (silent : startCall sessions options = none) :
    ∀ mode ∈ fix, mode.min_interval ≤ options.minInterval := by
  intro mode running
  unfold startCall at silent
  split at silent
  · cases silent
  · next filled =>
    split at silent
    · cases silent
    · next larger =>
      have least := (smallest_of_filled sized filled).2
      have lower := modeOf.lower running least.1
      omega

theorem updateCall_modeOf (sized : sessions.Sized) (live : sessions[key]? = some old)
    (asks : updateCall sessions key options = some fix) :
    ModeOf fix (sessions.insert key options) := by
  unfold updateCall at asks
  split at asks
  · next one =>
    cases asks
    apply modeOf_new
    rw [no_others_of_size_one live one]
    exact fun interval held => absurd held (Set.notMem_empty interval)
  · next several =>
    simp only [live] at asks
    obtain ⟨⟨other, counts, otherLive⟩, least⟩ := smallest_of_several sized live several
    split at asks
    · next smaller =>
      cases asks
      apply modeOf_new
      intro interval held
      have lower := least.2 held
      omega
    · next larger =>
      split at asks
      · cases asks
        rintro _ ⟨⟩
        have differs : other ≠ key := by simpa [only] using counts
        refine ⟨other, _, by rw [getElem?_insert, if_neg differs, otherLive], ?_, rfl⟩
        rw [intervals_insert]
        refine ⟨Set.mem_insert_of_mem _ least.1, ?_⟩
        rintro interval (rfl | held)
        · omega
        · exact least.2 held
      · cases asks

theorem updateCall_none (sized : sessions.Sized) (modeOf : ModeOf fix sessions)
    (live : sessions[key]? = some old) (silent : updateCall sessions key options = none) :
    ∀ mode ∈ fix, mode.min_interval ≤ options.minInterval := by
  intro mode running
  unfold updateCall at silent
  split at silent
  · cases silent
  · next several =>
    simp only [live] at silent
    split at silent
    · cases silent
    · next larger =>
      have least := (smallest_of_several sized live several).2
      have lower := modeOf.lower running (intervals_only_subset least.1)
      omega

theorem stopCall_modeOf (sized : sessions.Sized) (live : sessions[key]? = some old)
    (asks : stopCall sessions key = some fix) : ModeOf fix (sessions.erase key) := by
  unfold stopCall at asks
  split at asks
  · cases asks
    rintro _ ⟨⟩
  · next several =>
    simp only [live] at asks
    obtain ⟨⟨other, counts, otherLive⟩, least⟩ := smallest_of_several sized live several
    split at asks
    · cases asks
      rintro _ ⟨⟩
      have differs : other ≠ key := by simpa [only] using counts
      refine ⟨other, _, by rw [getElem?_erase, if_neg differs, otherLive], ?_, rfl⟩
      rw [intervals_erase]
      exact least
    · cases asks

end Sessions

/-- One session is stopped, as a step of the loop that stops all of a client. -/
def stopOne (adapter : GnssAdapter) (key : LocationSessionKey) : GnssAdapter :=
  let (adapter, err) := adapter.stopTrackingMultiplex key.client key.id
  if err = .success then adapter.eraseTrackingSession key.client key.id else adapter

/-- The sessions of a client, in the order the loop visits them. -/
def ownKeys (client : Nat) (sessions : List (LocationSessionKey × LocationOptions)) :
    List LocationSessionKey :=
  (sessions.map (·.1)).filter (client = ·.client)

/-- A session that is stopped without a call of the engine leaves one with the mode
in effect behind. -/
def StopKeepsMode (adapter : GnssAdapter) (key : LocationSessionKey) : Prop :=
  stopCall adapter.mTrackingSessions key = none →
    Backed adapter.mLocApi.fix adapter.mTrackingSessions key none

/-- What a message must meet so that the mode in effect stays that of a session:
where it makes no call of the engine, the session it stops, updates or replaces was
not the only one with this mode. -/
def KeepsMode (adapter : GnssAdapter) : AdapterMsg → Prop
  | .addClient _ _ => True
  | .removeClient client =>
    ∀ taken ∈ steps stopOne adapter (ownKeys client adapter.mTrackingSessions.toList),
      StopKeepsMode taken.1 taken.2
  | .startTracking client sessionId options =>
    adapter.admits client options = true →
      startCall adapter.mTrackingSessions options = none →
        Backed adapter.mLocApi.fix adapter.mTrackingSessions ⟨client, sessionId⟩ (some options)
  | .updateTracking client sessionId options =>
    adapter.isTrackingSession client sessionId = true → options.size ≠ 0 →
      updateCall adapter.mTrackingSessions ⟨client, sessionId⟩ options = none →
        Backed adapter.mLocApi.fix adapter.mTrackingSessions ⟨client, sessionId⟩ (some options)
  | .stopTracking client sessionId =>
    adapter.isTrackingSession client sessionId = true →
      StopKeepsMode adapter ⟨client, sessionId⟩
  | .restartSessions => True

/-- Between the sessions that the removal of a client stops, too, the mode in effect
is that of a session. -/
def LiveWhileRemoving (adapter : GnssAdapter) : AdapterMsg → Prop
  | .removeClient client =>
    ∀ between ∈ states stopOne adapter (ownKeys client adapter.mTrackingSessions.toList),
      ModeLive between
  | _ => True

section Messages
variable {adapter : GnssAdapter} {key : LocationSessionKey} {old options : LocationOptions}

/-- The engine is asked, and the sessions change if it does not refuse. A call that
it accepts is about one of the new sessions. -/
theorem asked_modeLive_iff {call : EngineCall} {next : LocationSessionMap} {backed : Prop}
    (modeLive : ModeLive adapter) (calls : ∀ fix, call = some fix → ModeOf fix next)
    (silent : call = none → (ModeOf adapter.mLocApi.fix next ↔ backed)) :
    let asked := ask adapter call
    ModeLive (if asked.2 = .success then { asked.1 with mTrackingSessions := next }
      else asked.1) ↔ (call = none → backed) := by
  intro asked
  cases call with
  | none =>
    have same : asked = (adapter, .success) := rfl
    rw [same, if_pos rfl, ← silent rfl]
    exact ⟨fun holds _ => holds, fun holds => holds rfl⟩
  | some fix =>
    refine iff_of_true ?_ fun silent => absurd silent (by simp)
    rcases ask_cases adapter fix with accepted | ⟨refused, same⟩
    · have accepted : asked = _ := accepted
      rw [accepted, if_pos rfl]
      exact calls fix rfl
    · rw [if_neg refused, ModeLive, same, ask_sessions]
      exact modeLive

theorem stopOne_modeLive_iff (sized : adapter.mTrackingSessions.Sized)
    (live : adapter.mTrackingSessions[key]? = some old) (modeLive : ModeLive adapter) :
    ModeLive (stopOne adapter key) ↔ StopKeepsMode adapter key := by
  have decided := asked_modeLive_iff modeLive
    (fun fix asks => stopCall_modeOf sized live asks) fun _ => modeOf_erase_iff modeLive
  simp only [stopOne, stop_asks, GnssAdapter.eraseTrackingSession, ask_sessions]
  exact decided

theorem stopOne_sized (sized : adapter.mTrackingSessions.Sized) (key : LocationSessionKey) :
    (stopOne adapter key).mTrackingSessions.Sized := by
  have kept : (adapter.stopTrackingMultiplex key.client key.id).1.mTrackingSessions.Sized := by
    rw [stop_keeps_sessions]
    exact sized
  simp only [stopOne]
  split
  · exact erase_sized kept key
  · exact kept

theorem stopOne_getElem?_other {other : LocationSessionKey} (differs : other ≠ key) :
    (stopOne adapter key).mTrackingSessions[other]? = adapter.mTrackingSessions[other]? := by
  simp only [stopOne]
  split
  · rw [GnssAdapter.eraseTrackingSession, getElem?_erase, if_neg differs, stop_keeps_sessions]
  · rw [stop_keeps_sessions]

/-- The loop stops the client's own sessions one after the other. -/
theorem stopSessions_eq (client : Nat) (rest : List (LocationSessionKey × LocationOptions))
    (adapter : GnssAdapter) : GnssAdapter.stopSessions client adapter rest =
      (ownKeys client rest).foldl stopOne adapter := by
  induction rest generalizing adapter with
  | nil => rfl
  | cons session rest ih =>
    obtain ⟨key, options⟩ := session
    simp only [GnssAdapter.stopSessions, ownKeys, List.map_cons]
    split
    · next own =>
      rw [List.filter_cons_of_pos (by simpa using own), List.foldl_cons, stopOne]
      simp only
      split <;> exact ih _
    · next other =>
      rw [List.filter_cons_of_neg (by simpa using other)]
      exact ih adapter

/-- Every session is still live when its turn comes. -/
theorem visited_live (keys : List LocationSessionKey) (distinct : keys.Nodup)
    (live : ∀ key ∈ keys, ∃ old, adapter.mTrackingSessions[key]? = some old) :
    ∀ taken ∈ steps stopOne adapter keys,
      ∃ old, taken.1.mTrackingSessions[taken.2]? = some old := by
  induction keys generalizing adapter with
  | nil => exact fun taken member => absurd member List.not_mem_nil
  | cons key rest ih =>
    obtain ⟨liveHere, liveRest⟩ := List.forall_mem_cons.mp live
    obtain ⟨notLater, distinctRest⟩ := List.nodup_cons.mp distinct
    rw [steps, List.forall_mem_cons]
    refine ⟨liveHere, ih distinctRest fun other member => ?_⟩
    have differs : other ≠ key := fun same => notLater (same ▸ member)
    rw [stopOne_getElem?_other differs]
    exact liveRest other member

/-- While a client is removed the mode in effect stays that of a session exactly if
each session that is stopped in silence leaves one with it. -/
theorem removal_modeLive_iff (sized : adapter.mTrackingSessions.Sized)
    (modeLive : ModeLive adapter) (client : Nat) :
    LiveWhileRemoving adapter (.removeClient client) ↔
      KeepsMode adapter (.removeClient client) := by
  have distinct : (ownKeys client adapter.mTrackingSessions.toList).Nodup := by
    apply List.Nodup.filter _
    rw [List.nodup_iff_pairwise_ne, List.pairwise_map]
    refine Std.TreeMap.distinct_keys_toList.imp fun different => ?_
    simpa only [Std.LawfulEqCmp.compare_eq_iff_eq] using different
  have live : ∀ key ∈ ownKeys client adapter.mTrackingSessions.toList,
      ∃ old, adapter.mTrackingSessions[key]? = some old := by
    intro key member
    obtain ⟨⟨_, options⟩, held, rfl⟩ := List.mem_map.mp (List.mem_of_mem_filter member)
    exact ⟨options, Std.TreeMap.mem_toList_iff_getElem?_eq_some.mp held⟩
  have keeps : ∀ (between : GnssAdapter) (key : LocationSessionKey),
      between.mTrackingSessions.Sized → (∃ old, between.mTrackingSessions[key]? = some old) →
        (stopOne between key).mTrackingSessions.Sized :=
    fun _ key sized _ => stopOne_sized sized key
  have decided : ∀ (between : GnssAdapter) (key : LocationSessionKey),
      between.mTrackingSessions.Sized → ModeLive between →
        (∃ old, between.mTrackingSessions[key]? = some old) →
          (ModeLive (stopOne between key) ↔ StopKeepsMode between key) := by
    rintro between key sized modeLive ⟨old, live⟩
    exact stopOne_modeLive_iff sized live modeLive
  exact always_iff_each_step_under keeps decided _ sized modeLive (visited_live _ distinct live)

theorem restart_modeLive (sized : adapter.mTrackingSessions.Sized)
    (idle : adapter.mLocApi.fix = none) : ModeLive adapter.restartSessions := by
  have nothingRuns : ModeOf none adapter.mTrackingSessions := fun _ running => by cases running
  unfold GnssAdapter.restartSessions
  split
  · rw [ModeLive, idle]
    exact nothingRuns
  · next filled =>
    obtain ⟨⟨key, -, live⟩, least⟩ := smallest_of_filled sized filled
    let smallest := convertOptions (adapter.mTrackingSessions.smallestIntervalOptions nothing)
    change ModeOf (ask adapter (some (some smallest))).1.mLocApi.fix adapter.mTrackingSessions
    have asked := ask_cases adapter (some smallest)
    rcases asked with accepted | ⟨-, same⟩
    · rw [accepted]
      rintro _ ⟨⟩
      exact ⟨key, _, live, least, rfl⟩
    · rw [same, idle]
      exact nothingRuns

/-- A message keeps the mode in effect that of a session, also on its way, exactly if
it meets its condition. -/
theorem proc_modeLive_iff (sized : adapter.mTrackingSessions.Sized) (modeLive : ModeLive adapter)
    (msg : AdapterMsg) (idle : msg = .restartSessions → adapter.mLocApi.fix = none) :
    ModeLive (msg.proc adapter).1 ∧ LiveWhileRemoving adapter msg ↔ KeepsMode adapter msg := by
  cases msg with
  | addClient client callbacks => exact iff_of_true ⟨modeLive, trivial⟩ trivial
  | removeClient client =>
    rw [← removal_modeLive_iff sized modeLive client]
    refine and_iff_right_of_imp fun throughout => ?_
    have last := throughout _ (end_mem_states adapter _)
    rw [← stopSessions_eq] at last
    exact last
  | startTracking client sessionId options =>
    apply (and_iff_left trivial).trans
    rw [KeepsMode]
    cases admitted : adapter.admits client options with
    | false =>
      rw [unadmitted admitted]
      exact iff_of_true modeLive fun admits => absurd admits (by simp)
    | true =>
      rw [started admitted, forall_prop_of_true rfl]
      have decided := asked_modeLive_iff modeLive
        (fun fix (asks : startCall _ options = some fix) =>
          startCall_modeOf sized asks ⟨client, sessionId⟩)
        fun silent => modeOf_insert_iff modeLive (startCall_none sized modeLive silent)
      simp only [start_asks, GnssAdapter.saveTrackingSession, ask_sessions]
      exact decided
  | updateTracking client sessionId options =>
    apply (and_iff_left trivial).trans
    rw [KeepsMode]
    simp only [AdapterMsg.proc]
    split
    · next tracking =>
      obtain ⟨old, live⟩ := live_of_isTrackingSession tracking
      split
      · next empty => exact iff_of_true modeLive fun _ full => absurd empty full
      · next full =>
        rw [forall_prop_of_true tracking, forall_prop_of_true full]
        have decided := asked_modeLive_iff modeLive
          (fun fix (asks : updateCall _ _ options = some fix) => updateCall_modeOf sized live asks)
          fun silent => modeOf_insert_iff modeLive (updateCall_none sized modeLive live silent)
        simp only [update_asks, GnssAdapter.saveTrackingSession, ask_sessions]
        exact decided
    · next untracked => exact iff_of_true modeLive fun tracking => absurd tracking untracked
  | stopTracking client sessionId =>
    apply (and_iff_left trivial).trans
    rw [KeepsMode]
    simp only [AdapterMsg.proc]
    split
    · next tracking =>
      obtain ⟨old, live⟩ := live_of_isTrackingSession tracking
      rw [forall_prop_of_true tracking]
      exact stopOne_modeLive_iff sized live modeLive
    · next untracked => exact iff_of_true modeLive fun tracking => absurd tracking untracked
  | restartSessions => exact iff_of_true ⟨restart_modeLive sized (idle rfl), trivial⟩ trivial

end Messages

/-- The message that is processed meets its condition. -/
def MsgKeepsMode (world : TrackingWorld) (input : TrackingInput) : Prop :=
  ∀ answers msg, input = .proc answers → world.queue.head? = some msg →
    KeepsMode (world.received answers msg) msg

/-- While the message is processed, the mode in effect stays that of a session. -/
def LiveInside (world : TrackingWorld) (input : TrackingInput) : Prop :=
  ∀ answers msg, input = .proc answers → world.queue.head? = some msg →
    LiveWhileRemoving (world.received answers msg) msg

theorem step_modeLive_iff (world : TrackingWorld) (input : TrackingInput)
    (sized : world.adapter.mTrackingSessions.Sized) (modeLive : ModeLive world.adapter) :
    ModeLive (world.step input).adapter ∧ LiveInside world input ↔ MsgKeepsMode world input := by
  rcases world.step_cases input with ⟨answers, msg, rfl, first, processed⟩ | ⟨idle, same⟩
  · -- Both the event and the condition are about this message alone.
    have about : ∀ property : GnssAdapter → AdapterMsg → Prop,
        (∀ given other, TrackingInput.proc answers = .proc given →
          world.queue.head? = some other → property (world.received given other) other) ↔
          property (world.received answers msg) msg := by
      intro property
      constructor
      · exact fun all => all answers msg rfl first
      · rintro holds _ other ⟨⟩ head
        cases first.symm.trans head
        exact holds
    have received : ModeLive (world.received answers msg) := by
      unfold ModeLive TrackingWorld.received
      split
      · exact fun _ running => by cases running
      · exact modeLive
    have restarted : msg = .restartSessions →
        (world.received answers msg).mLocApi.fix = none := fun restarts => if_pos restarts
    rw [LiveInside, MsgKeepsMode, about LiveWhileRemoving, about KeepsMode, processed]
    have receivedSized : (world.received answers msg).mTrackingSessions.Sized := sized
    exact proc_modeLive_iff receivedSized received msg restarted
  · rw [same]
    exact iff_of_true
      ⟨modeLive, fun answers msg processes head => absurd head (idle answers msg processes)⟩
      fun answers msg processes head => absurd head (idle answers msg processes)

/-- Over any run of commands and messages, with any answers of the engine, the mode
in effect is always that of a session with the smallest interval, exactly if every
message that leaves the engine alone leaves a session with this mode. -/
theorem mode_live_iff_silent_changes_keep_it (inputs : List TrackingInput) :
    ((∀ world ∈ states TrackingWorld.step .start inputs, ModeLive world.adapter) ∧
        ∀ taken ∈ steps TrackingWorld.step .start inputs, LiveInside taken.1 taken.2) ↔
      ∀ taken ∈ steps TrackingWorld.step .start inputs, MsgKeepsMode taken.1 taken.2 := by
  have sized : TrackingWorld.start.adapter.mTrackingSessions.Sized :=
    fun _ _ live => absurd live (by simp [TrackingWorld.start])
  have keeps : ∀ (world : TrackingWorld) (input : TrackingInput),
      world.adapter.mTrackingSessions.Sized →
        (world.step input).adapter.mTrackingSessions.Sized := fun _ _ => step_sized
  have idle : ModeLive TrackingWorld.start.adapter := fun _ running => by cases running
  exact always_with_events_iff_each_step keeps step_modeLive_iff inputs sized idle

/-- Two sessions ask for the same interval. The one the engine was started for is
stopped, and the engine goes on in its mode. -/
theorem tied_session_leaves_its_mode :
    ¬ ∀ inputs : List TrackingInput,
      (∀ taken ∈ steps TrackingWorld.step .start inputs, RestartAccepted taken.1 taken.2) →
        ∀ world ∈ states TrackingWorld.step .start inputs, ModeLive world.adapter := by
  intro always
  have modeLive := always [.addClientCommand 1 ⟨true, false, true⟩, .proc [],
    .startTrackingCommand 1 ⟨24, 1000, 0, .standalone⟩, .proc [],
    .startTrackingCommand 1 ⟨24, 1000, 0, .msb⟩, .proc [],
    .stopTrackingCommand 1 2, .proc []] (accepted_of_silent _ (by simp)) _ (end_mem_states _ _)
  obtain ⟨key, options, live, -, same⟩ := modeLive
    (convertOptions ⟨24, 1000, 0, .standalone⟩) rfl
  have left : key = ⟨1, 3⟩ ∧ options = ⟨24, 1000, 0, .msb⟩ := by
    have member := Std.TreeMap.mem_toList_iff_getElem?_eq_some.mpr live
    have only : (key, options) = (⟨1, 3⟩, ⟨24, 1000, 0, .msb⟩) := List.mem_singleton.mp member
    exact Prod.ext_iff.mp only
  rw [left.2] at same
  exact absurd same (by decide)

end Msm8917Common.Gnss.FixModeProofs
