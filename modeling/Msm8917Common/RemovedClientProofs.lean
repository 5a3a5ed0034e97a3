import Msm8917Common.GnssMultiplexers
import Msm8917Common.Runs

/-! What a removed client leaves behind. The record of the client always goes; each
of its sessions goes only if the engine accepts what stopping it asks for, so a
refused call leaves a session whose client nobody knows. -/
namespace Msm8917Common.Gnss.RemovedClientProofs
open Runs LocationSessionMap Multiplexers

/-- Every session has a client that the adapter knows. -/
def ClientsKnown (adapter : GnssAdapter) : Prop :=
  ∀ (key : LocationSessionKey) (options : LocationOptions),
    adapter.mTrackingSessions[key]? = some options → key.client ∈ adapter.mClientData

/-- How many calls of the engine stopping the sessions of a client takes, while all
of them are accepted. -/
def callsToStop (client : Nat) (sessions : LocationSessionMap) :
    List (LocationSessionKey × LocationOptions) → Nat
  | [] => 0
  | (key, _) :: rest =>
    if client = key.client then
      (if (stopCall sessions key).isSome then 1 else 0) +
        callsToStop client (sessions.erase key) rest
    else callsToStop client sessions rest

/-- While a client is removed the engine accepts every call that stopping its
sessions takes. -/
def AcceptsStops (world : TrackingWorld) (input : TrackingInput) : Prop :=
  ∀ answers client, input = .proc answers → world.queue.head? = some (.removeClient client) →
    ∀ apiErr ∈ answers.take (callsToStop client world.adapter.mTrackingSessions
      world.adapter.mTrackingSessions.toList), apiErr = 0

/-- Once a client is removed no session is its. -/
def LeavesNoSession (world : TrackingWorld) (input : TrackingInput) : Prop :=
  ∀ answers client, input = .proc answers → world.queue.head? = some (.removeClient client) →
    ∀ key : LocationSessionKey, key.client = client →
      (world.step input).adapter.mTrackingSessions[key]? = none

section Loop
variable {adapter : GnssAdapter} {client : Nat}

theorem eraseTrackingSession_getElem? (key other : LocationSessionKey) :
    (adapter.eraseTrackingSession key.client key.id).mTrackingSessions[other]? =
      if other = key then none else adapter.mTrackingSessions[other]? := by
  rw [GnssAdapter.eraseTrackingSession, getElem?_erase]

/-- The loop erases none but the sessions it has to visit. -/
theorem stopSessions_unvisited (client : Nat) (rest : List (LocationSessionKey × LocationOptions))
    (adapter : GnssAdapter) {key : LocationSessionKey} (unvisited : key ∉ rest.map (·.1)) :
    (GnssAdapter.stopSessions client adapter rest).mTrackingSessions[key]? =
      adapter.mTrackingSessions[key]? := by
  induction rest generalizing adapter with
  | nil => rfl
  | cons session rest ih =>
    obtain ⟨visited, options⟩ := session
    obtain ⟨other, later⟩ := not_or.mp (List.mem_cons.not.mp unvisited)
    simp only [GnssAdapter.stopSessions, stop_asks]
    split
    · split
      · rw [ih _ later, eraseTrackingSession_getElem?, if_neg other, ask_sessions]
      · rw [ih _ later, ask_sessions]
    · exact ih adapter later

theorem stopSessions_shrinks (client : Nat) (rest : List (LocationSessionKey × LocationOptions))
    (adapter : GnssAdapter) {key : LocationSessionKey}
    (gone : adapter.mTrackingSessions[key]? = none) :
    (GnssAdapter.stopSessions client adapter rest).mTrackingSessions[key]? = none := by
  induction rest generalizing adapter with
  | nil => exact gone
  | cons session rest ih =>
    obtain ⟨visited, options⟩ := session
    simp only [GnssAdapter.stopSessions, stop_asks]
    split
    · split
      · apply ih
        rw [eraseTrackingSession_getElem?, ask_sessions, gone]
        exact ite_self none
      · apply ih
        rw [ask_sessions, gone]
    · exact ih adapter gone

theorem stopSessions_clients (client : Nat) (rest : List (LocationSessionKey × LocationOptions))
    (adapter : GnssAdapter) :
    (GnssAdapter.stopSessions client adapter rest).mClientData = adapter.mClientData := by
  induction rest generalizing adapter with
  | nil => rfl
  | cons session rest ih =>
    simp only [GnssAdapter.stopSessions, stop_asks]
    split
    · split
      · rw [ih, GnssAdapter.eraseTrackingSession, ask_clients]
      · rw [ih, ask_clients]
    · exact ih adapter

/-- The sessions after the first one are live once that is erased. -/
private theorem live_of_erased {key : LocationSessionKey}
    {rest : List (LocationSessionKey × LocationOptions)} {adapter : GnssAdapter}
    (live : ∀ session ∈ rest, adapter.mTrackingSessions[session.1]? = some session.2)
    (notLater : key ∉ rest.map (·.1)) (api : LocApi) :
    ∀ session ∈ rest, ({ adapter with mLocApi := api }.eraseTrackingSession
      key.client key.id).mTrackingSessions[session.1]? = some session.2 := by
  intro session member
  have differs : session.1 ≠ key := by
    rintro rfl
    exact notLater (List.mem_map_of_mem member)
  rw [eraseTrackingSession_getElem?, if_neg differs]
  exact live session member

/-- The loop leaves no session of the client among those it visits exactly if the
engine accepts the calls it takes. A refused session is not visited again. -/
theorem stopSessions_leaves_none_iff (client : Nat)
    (rest : List (LocationSessionKey × LocationOptions)) (adapter : GnssAdapter)
    (live : ∀ session ∈ rest, adapter.mTrackingSessions[session.1]? = some session.2)
    (distinct : (rest.map (·.1)).Nodup) :
    (∀ session ∈ rest, session.1.client = client →
        (GnssAdapter.stopSessions client adapter rest).mTrackingSessions[session.1]? = none) ↔
      ∀ apiErr ∈ adapter.mLocApi.answers.take
        (callsToStop client adapter.mTrackingSessions rest), apiErr = 0 := by
  induction rest generalizing adapter with
  | nil => simp [callsToStop]
  | cons session rest ih =>
    obtain ⟨key, options⟩ := session
    obtain ⟨liveHere, liveRest⟩ := List.forall_mem_cons.mp live
    obtain ⟨notLater, distinctRest⟩ := List.nodup_cons.mp distinct
    rw [List.forall_mem_cons]
    simp only [GnssAdapter.stopSessions, stop_asks, callsToStop]
    by_cases own : client = key.client
    case neg =>
      simp only [own, if_false]
      rw [← ih adapter liveRest distinctRest]
      exact and_iff_right fun same => absurd same.symm own
    simp only [own, if_true]
    -- What is left of the list once this session could be stopped.
    have stopped : ∀ api : LocApi, ∀ erased : GnssAdapter,
        erased = { adapter with mLocApi := api }.eraseTrackingSession key.client key.id →
        (((True → (GnssAdapter.stopSessions key.client erased
            rest).mTrackingSessions[key]? = none) ∧
          ∀ session ∈ rest, session.1.client = key.client →
            (GnssAdapter.stopSessions key.client erased
              rest).mTrackingSessions[session.1]? = none) ↔
          ∀ apiErr ∈ api.answers.take
            (callsToStop key.client (adapter.mTrackingSessions.erase key) rest), apiErr = 0) := by
      rintro api _ rfl
      have erasedHere : ({ adapter with mLocApi := api }.eraseTrackingSession key.client
          key.id).mTrackingSessions[key]? = none := by
        rw [eraseTrackingSession_getElem?, if_pos rfl]
      rw [own] at ih
      rw [and_iff_right fun _ => stopSessions_shrinks _ _ _ erasedHere,
        ih _ (live_of_erased liveRest notLater api) distinctRest]
      rfl
    cases isCall : stopCall adapter.mTrackingSessions key with
    | none =>
      simp only [Option.isSome_none, Bool.false_eq_true, if_false, Nat.zero_add, ask, if_true]
      exact stopped adapter.mLocApi _ rfl
    | some fix =>
      simp only [Option.isSome_some, if_true]
      cases isAnswers : adapter.mLocApi.answers with
      | nil =>
        rw [ask_accepted (by simp [isAnswers]) fix, isAnswers]
        simp only [if_true, List.tail_nil, List.take_nil]
        simpa using stopped ⟨fix, []⟩ _ rfl
      | cons apiErr answers =>
        rw [Nat.add_comm 1, List.take_succ_cons, List.forall_mem_cons]
        by_cases success : apiErr = 0
        · rw [ask_accepted (by simp [isAnswers, success]) fix, isAnswers, and_iff_right success]
          simp only [if_true, List.tail_cons]
          exact stopped ⟨fix, answers⟩ _ rfl
        · rw [ask_refused isAnswers success]
          -- The refused session stays to the end of the loop.
          refine iff_of_false ?_ fun all => success all.1
          rintro ⟨here, -⟩
          have stays := here trivial
          simp only [reduceCtorEq, if_false] at stays
          rw [stopSessions_unvisited _ _ _ notLater] at stays
          exact absurd (liveHere.symm.trans stays) (by simp)

end Loop

section Messages
variable {adapter : GnssAdapter} {client : Nat}

/-- After a removal nothing is left of the client exactly if the engine accepted
the calls it took. -/
theorem removal_leaves_none_iff (client : Nat) (adapter : GnssAdapter) :
    (∀ key : LocationSessionKey, key.client = client →
        (adapter.stopClientSessions client).mTrackingSessions[key]? = none) ↔
      ∀ apiErr ∈ adapter.mLocApi.answers.take
        (callsToStop client adapter.mTrackingSessions adapter.mTrackingSessions.toList),
        apiErr = 0 := by
  have distinct : (adapter.mTrackingSessions.toList.map (·.1)).Nodup := by
    rw [List.nodup_iff_pairwise_ne, List.pairwise_map]
    refine Std.TreeMap.distinct_keys_toList.imp fun different => ?_
    simpa only [Std.LawfulEqCmp.compare_eq_iff_eq] using different
  have live : ∀ session ∈ adapter.mTrackingSessions.toList,
      adapter.mTrackingSessions[session.1]? = some session.2 :=
    fun session member => Std.TreeMap.mem_toList_iff_getElem?_eq_some.mp member
  rw [← stopSessions_leaves_none_iff client _ adapter live distinct]
  constructor
  · exact fun none session _ own => none session.1 own
  · intro none key own
    by_cases visited : key ∈ adapter.mTrackingSessions.toList.map (·.1)
    · obtain ⟨session, member, rfl⟩ := List.mem_map.mp visited
      exact none session member own
    · rw [GnssAdapter.stopClientSessions, stopSessions_unvisited _ _ _ visited]
      cases held : adapter.mTrackingSessions[key]? with
      | none => rfl
      | some options =>
        have member := Std.TreeMap.mem_toList_iff_getElem?_eq_some.mpr held
        exact absurd (List.mem_map_of_mem (f := (·.1)) member) visited

theorem removal_known_iff (known : ClientsKnown adapter) (client : Nat) :
    ClientsKnown ((AdapterMsg.removeClient client).proc adapter).1 ↔
      ∀ key : LocationSessionKey, key.client = client →
        (adapter.stopClientSessions client).mTrackingSessions[key]? = none := by
  have clients : ((AdapterMsg.removeClient client).proc adapter).1.mClientData =
      adapter.mClientData.erase client := by
    simp only [AdapterMsg.proc, GnssAdapter.eraseClient, GnssAdapter.stopClientSessions,
      stopSessions_clients]
  constructor
  · intro knownNow key own
    cases held : (adapter.stopClientSessions client).mTrackingSessions[key]? with
    | none => rfl
    | some options =>
      have inData := knownNow key options held
      rw [clients, own] at inData
      simp at inData
  · intro none key options held
    have held : (adapter.stopClientSessions client).mTrackingSessions[key]? = some options := held
    have other : key.client ≠ client := by
      intro own
      rw [none key own] at held
      cases held
    have before : ∃ old, adapter.mTrackingSessions[key]? = some old := by
      cases was : adapter.mTrackingSessions[key]? with
      | some old => exact ⟨old, rfl⟩
      | none =>
        have gone := stopSessions_shrinks client adapter.mTrackingSessions.toList adapter was
        exact absurd (gone.symm.trans held) (by simp)
    obtain ⟨old, was⟩ := before
    rw [clients]
    simpa [Ne.symm other] using known key old was

/-- Saving a session of a known client. -/
theorem save_known (known : ClientsKnown adapter) {client : Nat}
    (member : client ∈ adapter.mClientData) (sessionId : Nat) (options : LocationOptions) :
    ClientsKnown (adapter.saveTrackingSession client sessionId options) := by
  intro key held live
  rw [GnssAdapter.saveTrackingSession, getElem?_insert] at live
  split at live
  · next same =>
    rw [same]
    exact member
  · exact known key held live

theorem erase_known (known : ClientsKnown adapter) (client id : Nat) :
    ClientsKnown (adapter.eraseTrackingSession client id) := by
  intro key held live
  rw [GnssAdapter.eraseTrackingSession, getElem?_erase] at live
  split at live
  · cases live
  · exact known key held live

theorem ask_known (known : ClientsKnown adapter) (call : EngineCall) :
    ClientsKnown (ask adapter call).1 := by
  intro key held live
  rw [ask_sessions] at live
  rw [ask_clients]
  exact known key held live

theorem mem_of_callback {callback : LocationCallbacks → Bool}
    (has : (adapter.mClientData[client]?).any callback = true) : client ∈ adapter.mClientData := by
  rw [Std.TreeMap.mem_iff_isSome_getElem?]
  cases found : adapter.mClientData[client]? with
  | none => simp [found] at has
  | some callbacks => rfl

/-- No message but a removal leaves a session without its client. -/
theorem other_msg_known (known : ClientsKnown adapter) (msg : AdapterMsg)
    (other : ∀ client, msg ≠ .removeClient client) : ClientsKnown (msg.proc adapter).1 := by
  cases msg with
  | removeClient client => exact absurd rfl (other client)
  | addClient client callbacks =>
    intro key held live
    simp only [AdapterMsg.proc, GnssAdapter.saveClient, Std.TreeMap.mem_insert]
    exact .inr (known key held live)
  | startTracking client sessionId options =>
    simp only [AdapterMsg.proc, start_asks]
    split
    · exact known
    · next has =>
      have member : client ∈ adapter.mClientData := by
        cases tracking : adapter.hasTrackingCallback client with
        | true => exact mem_of_callback tracking
        | false =>
          have measurements : adapter.hasMeasurementsCallback client = true := by
            simpa [tracking] using has
          exact mem_of_callback measurements
      split
      · exact known
      · split
        · exact save_known (ask_known known _) (by simpa using member) _ _
        · exact ask_known known _
  | updateTracking client sessionId options =>
    simp only [AdapterMsg.proc, update_asks]
    split
    · next tracking =>
      have member : client ∈ adapter.mClientData := by
        rw [GnssAdapter.isTrackingSession, Std.TreeMap.contains_eq_isSome_getElem?] at tracking
        obtain ⟨old, live⟩ := Option.isSome_iff_exists.mp tracking
        exact known _ _ live
      split
      · exact known
      · split
        · exact save_known (ask_known known _) (by simpa using member) _ _
        · exact ask_known known _
    · exact known
  | stopTracking client sessionId =>
    simp only [AdapterMsg.proc, stop_asks]
    split
    · split
      · exact erase_known (ask_known known _) _ _
      · exact ask_known known _
    · exact known
  | restartSessions =>
    simp only [AdapterMsg.proc, GnssAdapter.restartSessions]
    split <;> exact known

end Messages

section Runs
variable {world : TrackingWorld} {input : TrackingInput}

theorem step_known_iff (world : TrackingWorld) (input : TrackingInput)
    (known : ClientsKnown world.adapter) :
    ClientsKnown (world.step input).adapter ∧ LeavesNoSession world input ↔
      AcceptsStops world input := by
  rcases world.step_cases input with ⟨answers, msg, rfl, first, processed⟩ | ⟨idle, same⟩
  · have received : ClientsKnown (world.received answers msg) := known
    by_cases removal : ∃ client, msg = .removeClient client
    · obtain ⟨client, rfl⟩ := removal
      have left := removal_leaves_none_iff client (world.received answers (.removeClient client))
      have accepts_iff : AcceptsStops world (.proc answers) ↔
          ∀ apiErr ∈ answers.take (callsToStop client world.adapter.mTrackingSessions
            world.adapter.mTrackingSessions.toList), apiErr = 0 := by
        constructor
        · exact fun accepts => accepts answers client rfl first
        · rintro all _ other ⟨⟩ head
          cases first.symm.trans head
          exact all
      rw [accepts_iff, processed, removal_known_iff received client]
      constructor
      · exact fun both => left.mp both.1
      · intro all
        refine ⟨left.mpr all, ?_⟩
        rintro _ other ⟨⟩ head key own
        cases first.symm.trans head
        rw [processed]
        exact left.mpr all key own
    · rw [not_exists] at removal
      have other : ∀ client, world.queue.head? ≠ some (.removeClient client) :=
        fun client head => removal client (Option.some.inj (first.symm.trans head))
      rw [processed]
      exact iff_of_true ⟨other_msg_known received msg removal,
        fun _ client _ head => absurd head (other client)⟩
        fun _ client _ head => absurd head (other client)
  · rw [same]
    exact iff_of_true
      ⟨known, fun answers _ processes head => absurd head (idle answers _ processes)⟩
      fun answers _ processes head => absurd head (idle answers _ processes)

end Runs

/-- Over any run of commands and messages every session has a client that the
adapter knows, and no removal leaves a session behind, exactly if the engine
accepts every call that the removals take. -/
theorem removals_leave_no_session_iff_accepted (inputs : List TrackingInput) :
    ((∀ world ∈ states TrackingWorld.step .start inputs, ClientsKnown world.adapter) ∧
        ∀ taken ∈ steps TrackingWorld.step .start inputs, LeavesNoSession taken.1 taken.2) ↔
      ∀ taken ∈ steps TrackingWorld.step .start inputs, AcceptsStops taken.1 taken.2 :=
  always_with_events_iff_each_step (fun _ _ (_ : True) => trivial)
    (fun world input _ known => step_known_iff world input known) inputs trivial
    fun _ _ live => absurd live (by simp [TrackingWorld.start])

/-- The engine refuses to stop while the only client is removed: its session stays. -/
theorem refused_stop_leaves_the_session :
    ¬ ∀ inputs : List TrackingInput,
      (∀ world ∈ states TrackingWorld.step .start inputs, ClientsKnown world.adapter) ∧
        ∀ taken ∈ steps TrackingWorld.step .start inputs, LeavesNoSession taken.1 taken.2 := by
  intro always
  have known := (always [.addClientCommand 1 ⟨true, false, true⟩, .proc [],
    .startTrackingCommand 1 ⟨24, 1000, 0, .standalone⟩, .proc [],
    .removeClientCommand 1, .proc [1]]).1 _ (end_mem_states _ _)
  exact absurd (known ⟨1, 2⟩ ⟨24, 1000, 0, .standalone⟩ (by rfl)) (by decide)

end Msm8917Common.Gnss.RemovedClientProofs
