import Msm8917Common.LocationAPIClientBase

/-! Which options `locAPIModifyGeofences` sends with which session. The loop packs the
sessions of the known ids together and leaves the array of options as it was given. -/
namespace Msm8917Common.Location

structure GeofenceOption where
  breachTypeMask : Nat
  responsiveness : Nat
  dwellTime : Nat
  deriving DecidableEq

namespace BiDict
variable {α : Type*} {dict : BiDict α}

/-- To keep an id's session and change what is kept for it changes no session. -/
theorem getSession_set_same (id other : Nat) (ext : α) (known : 0 < dict.getSession id) :
    (dict.set id (dict.getSession id) ext).getSession other = dict.getSession other := by
  unfold getSession set
  by_cases same : other = id
  · subst same
    rw [AList.lookup_insert]
    rfl
  · rw [AList.lookup_insert_ne same]

theorem hasId_of_getSession {id : Nat} (known : 0 < dict.getSession id) : dict.hasId id = true := by
  unfold getSession at known
  unfold hasId
  cases found : dict.mForwardMap.lookup id with
  | none => simp [found] at known
  | some session => rfl

end BiDict

namespace LocationAPIClientBase
variable (client : LocationAPIClientBase)

/-- One turn of the loop, on the dictionary and on `sessions`. -/
def modifyGeofence (state : BiDict Nat × List Nat) (geofence : Nat × GeofenceOption) :
    BiDict Nat × List Nat :=
  let session := state.1.getSession geofence.1
  if session > 0 then
    (state.1.set geofence.1 session geofence.2.breachTypeMask, state.2 ++ [session])
  else state

/-- `locAPIModifyGeofences` for the ids with their options. What comes with the client
is the call of `modifyGeofences`: the sessions, each with the options at its place. -/
def modifyWithOptions (geofences : List (Nat × GeofenceOption)) (allocated : Bool) :
    LocationAPIClientBase × List (Nat × GeofenceOption) :=
  if client.mLocationAPI ∧ allocated ∧
      (client.mRequestQueues .geofence).mSession = GEOFENCE_SESSION_ID then
    let (dict, sessions) := geofences.foldl modifyGeofence (client.mGeofenceBiDict, [])
    if sessions.isEmpty then ({ client with mGeofenceBiDict := dict }, [])
    else ({ client.push .geofence .modifyGeofences with mGeofenceBiDict := dict },
      sessions.zip (geofences.map Prod.snd))
  else (client, [])

/-- Whether the call gets as far as its loop. -/
def reachesLoop (allocated : Bool) : Prop :=
  client.mLocationAPI ∧ allocated ∧
    (client.mRequestQueues .geofence).mSession = GEOFENCE_SESSION_ID

/-- The number of geofences before this place whose ids have a session. -/
def rank (geofences : List (Nat × GeofenceOption)) (i : Nat) : Nat :=
  (geofences.take i).countP fun geofence => 0 < client.mGeofenceBiDict.getSession geofence.1

/-- Each known id has its session sent with the options given at its own place, and
nothing else is sent. -/
def PairsOwnOptions (geofences sent : List (Nat × GeofenceOption)) : Prop :=
  (∀ geofence ∈ geofences, client.mGeofenceBiDict.hasId geofence.1 = true →
    (client.mGeofenceBiDict.getSession geofence.1, geofence.2) ∈ sent) ∧
  ∀ pair ∈ sent, ∃ geofence ∈ geofences, client.mGeofenceBiDict.hasId geofence.1 = true ∧
    pair = (client.mGeofenceBiDict.getSession geofence.1, geofence.2)

/-- The known id at this place is sent with these options. -/
def Lands (geofences : List (Nat × GeofenceOption)) (i : Nat) (geofence : Nat × GeofenceOption)
    (option : GeofenceOption) : Prop :=
  geofences[i]? = some geofence ∧ 0 < client.mGeofenceBiDict.getSession geofence.1 ∧
    (geofences[client.rank geofences i]?).map Prod.snd = some option

/-- Taken from as many places earlier as there are unknown ids before it, the options of
each known id are some that were given for its session, and each that was given for the
session is taken so by it or by an id with the same session. -/
structure Aligned (geofences : List (Nat × GeofenceOption)) : Prop where
  given : ∀ i geofence option, client.Lands geofences i geofence option →
    ∃ own ∈ geofences, client.mGeofenceBiDict.getSession own.1 =
      client.mGeofenceBiDict.getSession geofence.1 ∧ own.2 = option
  taken : ∀ geofence ∈ geofences, 0 < client.mGeofenceBiDict.getSession geofence.1 →
    ∃ i own, client.Lands geofences i own geofence.2 ∧
      client.mGeofenceBiDict.getSession own.1 = client.mGeofenceBiDict.getSession geofence.1

variable {client} {geofences : List (Nat × GeofenceOption)}

/-- The loop does to the dictionary and the sessions what it is known to do for masks. -/
theorem modifyGeofence_loop (geofences : List (Nat × GeofenceOption)) (dict : BiDict Nat)
    (sessions : List Nat) :
    geofences.foldl modifyGeofence (dict, sessions) =
      ((geofences.map fun geofence => (geofence.1, geofence.2.breachTypeMask)).foldl
        remaskGeofence dict,
      sessions ++ ((geofences.map fun geofence => dict.getSession geofence.1).filter (· > 0))) := by
  induction geofences generalizing dict sessions with
  | nil => simp
  | cons geofence rest ih =>
    rw [List.foldl_cons, List.map_cons, List.map_cons, List.foldl_cons]
    by_cases known : 0 < dict.getSession geofence.1
    · have turn : modifyGeofence (dict, sessions) geofence =
          (dict.set geofence.1 (dict.getSession geofence.1) geofence.2.breachTypeMask,
            sessions ++ [dict.getSession geofence.1]) := if_pos known
      rw [turn, ih, remaskGeofence, if_pos known, List.filter_cons_of_pos (by simpa using known),
        List.append_assoc]
      simp only [BiDict.getSession_set_same _ _ _ known, List.singleton_append]
    · have turn : modifyGeofence (dict, sessions) geofence = (dict, sessions) := if_neg known
      rw [turn, ih, remaskGeofence, if_neg known, List.filter_cons_of_neg (by simpa using known)]

/-- Some elements picked out of a list and paired with another list in order: each is
paired with the element at the place that counts the picked ones before it. -/
theorem mem_zip_picked {α β γ : Type*} (picked : α → Bool) (label : α → β) (l : List α)
    (others : List γ) (pair : β × γ) :
    pair ∈ ((l.filter picked).map label).zip others ↔
      ∃ i element, l[i]? = some element ∧ picked element = true ∧
        others[(l.take i).countP picked]? = some pair.2 ∧ pair.1 = label element := by
  induction l generalizing others with
  | nil => simp
  | cons head rest ih =>
    rw [← Nat.or_exists_add_one]
    cases chosen : picked head with
    | true =>
      cases others with
      | nil => simp
      | cons other others =>
        rw [List.filter_cons_of_pos chosen, List.map_cons, List.zip_cons_cons, List.mem_cons, ih]
        refine or_congr ⟨?_, ?_⟩ ?_
        · rintro rfl
          exact ⟨head, rfl, chosen, rfl, rfl⟩
        · rintro ⟨element, here, _, there, same⟩
          cases Option.some.inj here
          exact Prod.ext same (Option.some.inj there).symm
        · simp only [List.getElem?_cons_succ, List.take_succ_cons,
            List.countP_cons_of_pos chosen]
    | false =>
      rw [List.filter_cons_of_neg (by simp [chosen]), ih]
      simp [chosen]

theorem sent_of_reachesLoop {allocated : Bool} (reaches : client.reachesLoop allocated) :
    (client.modifyWithOptions geofences allocated).2 =
      ((geofences.filter fun geofence => 0 < client.mGeofenceBiDict.getSession geofence.1).map
        fun geofence => client.mGeofenceBiDict.getSession geofence.1).zip
          (geofences.map Prod.snd) := by
  have packed : (geofences.map fun geofence =>
      client.mGeofenceBiDict.getSession geofence.1).filter (· > 0) =
      (geofences.filter fun geofence => 0 < client.mGeofenceBiDict.getSession geofence.1).map
        fun geofence => client.mGeofenceBiDict.getSession geofence.1 := by
    rw [List.filter_map]
    rfl
  have called : client.mLocationAPI = true ∧ allocated = true ∧
    (client.mRequestQueues .geofence).mSession = GEOFENCE_SESSION_ID := reaches
  simp only [modifyWithOptions, if_pos called, modifyGeofence_loop, List.nil_append, packed]
  split
  · next none_known => rw [List.isEmpty_iff.mp none_known, List.zip_nil_left]
  · rfl

/-- What is sent, by the places in the arrays. -/
theorem mem_sent_iff {allocated : Bool} (reaches : client.reachesLoop allocated)
    (pair : Nat × GeofenceOption) :
    pair ∈ (client.modifyWithOptions geofences allocated).2 ↔
      ∃ i geofence, client.Lands geofences i geofence pair.2 ∧
        pair.1 = client.mGeofenceBiDict.getSession geofence.1 := by
  rw [sent_of_reachesLoop reaches, mem_zip_picked]
  simp only [Lands, rank, List.getElem?_map, decide_eq_true_eq, and_assoc]

theorem not_sent_of_stopped {allocated : Bool} (stopped : ¬ client.reachesLoop allocated) :
    client.modifyWithOptions geofences allocated = (client, []) :=
  if_neg stopped

/-- If the call gets to its loop and what it sends is right, then the known ids have
sessions that are not zero, and the options are aligned. -/
theorem aligned_of_pairsOwnOptions {allocated : Bool} (reaches : client.reachesLoop allocated)
    (own : client.PairsOwnOptions geofences (client.modifyWithOptions geofences allocated).2) :
    (∀ geofence ∈ geofences, client.mGeofenceBiDict.hasId geofence.1 = true →
      0 < client.mGeofenceBiDict.getSession geofence.1) ∧ client.Aligned geofences := by
  obtain ⟨sends, only⟩ := own
  refine ⟨fun geofence member known => ?_, ?_, ?_⟩
  · obtain ⟨i, own, ⟨_, positive, _⟩, same⟩ :=
      (mem_sent_iff reaches _).mp (sends geofence member known)
    exact Nat.lt_of_lt_of_eq positive same.symm
  · intro i geofence option lands
    obtain ⟨own, member, _, same⟩ :=
      only (client.mGeofenceBiDict.getSession geofence.1, option)
        ((mem_sent_iff reaches _).mpr ⟨i, geofence, lands, rfl⟩)
    obtain ⟨session, option⟩ := Prod.mk.inj same
    exact ⟨own, member, session.symm, option.symm⟩
  · intro geofence member positive
    obtain ⟨i, own, lands, same⟩ := (mem_sent_iff reaches _).mp
      (sends geofence member (BiDict.hasId_of_getSession positive))
    exact ⟨i, own, lands, same.symm⟩

theorem pairsOwnOptions_of_aligned {allocated : Bool} (reaches : client.reachesLoop allocated)
    (positive : ∀ geofence ∈ geofences, client.mGeofenceBiDict.hasId geofence.1 = true →
      0 < client.mGeofenceBiDict.getSession geofence.1)
    (aligned : client.Aligned geofences) :
    client.PairsOwnOptions geofences (client.modifyWithOptions geofences allocated).2 := by
  constructor
  · intro geofence member known
    obtain ⟨i, own, lands, same⟩ :=
      aligned.taken geofence member (positive geofence member known)
    exact (mem_sent_iff reaches _).mpr ⟨i, own, lands, same.symm⟩
  · intro pair sent
    obtain ⟨i, geofence, lands, same⟩ := (mem_sent_iff reaches pair).mp sent
    obtain ⟨own, member, session, option⟩ := aligned.given i geofence pair.2 lands
    refine ⟨own, member, BiDict.hasId_of_getSession (session ▸ lands.2.1), ?_⟩
    rw [session, option, ← same]

/-- To send nothing is right exactly when no id is known. -/
theorem pairsOwnOptions_nil_iff : client.PairsOwnOptions geofences [] ↔
    ∀ geofence ∈ geofences, client.mGeofenceBiDict.hasId geofence.1 = false := by
  constructor
  · rintro ⟨sends, _⟩ geofence member
    apply eq_false_of_ne_true
    intro known
    exact List.not_mem_nil (sends geofence member known)
  · intro unknown
    refine ⟨fun geofence member known => ?_, fun _ sent => absurd sent List.not_mem_nil⟩
    rw [unknown geofence member] at known
    cases known

theorem aligned_of_unknown (unknown : ∀ geofence ∈ geofences,
    client.mGeofenceBiDict.hasId geofence.1 = false) : client.Aligned geofences := by
  have no_session : ∀ geofence ∈ geofences,
      ¬ 0 < client.mGeofenceBiDict.getSession geofence.1 := fun geofence member positive =>
    ne_true_of_eq_false (unknown geofence member) (BiDict.hasId_of_getSession positive)
  constructor
  · intro i geofence option lands
    exact absurd lands.2.1 (no_session geofence (List.mem_of_getElem? lands.1))
  · intro geofence member positive
    exact absurd positive (no_session geofence member)

/-- What is sent is right exactly when the known ids have sessions that are not zero,
the call gets to its loop or has nothing to send, and the options are aligned. -/
theorem geofences_get_their_own_options_iff (client : LocationAPIClientBase)
    (geofences : List (Nat × GeofenceOption)) (allocated : Bool) :
    client.PairsOwnOptions geofences (client.modifyWithOptions geofences allocated).2 ↔
      (∀ geofence ∈ geofences, client.mGeofenceBiDict.hasId geofence.1 = true →
        0 < client.mGeofenceBiDict.getSession geofence.1) ∧
      (client.reachesLoop allocated ∨
        ∀ geofence ∈ geofences, client.mGeofenceBiDict.hasId geofence.1 = false) ∧
      client.Aligned geofences := by
  by_cases reaches : client.reachesLoop allocated
  · constructor
    · intro own
      obtain ⟨positive, aligned⟩ := aligned_of_pairsOwnOptions reaches own
      exact ⟨positive, .inl reaches, aligned⟩
    · rintro ⟨positive, _, aligned⟩
      exact pairsOwnOptions_of_aligned reaches positive aligned
  · rw [not_sent_of_stopped reaches, pairsOwnOptions_nil_iff]
    constructor
    · intro unknown
      exact ⟨fun geofence member known =>
        absurd known (ne_true_of_eq_false (unknown geofence member)), .inr unknown,
        aligned_of_unknown unknown⟩
    · rintro ⟨_, stopped | unknown, _⟩
      · exact absurd stopped reaches
      · exact unknown

/-- The geofence 7 is known and 5 is not: 7 gets the options meant for 5. -/
theorem options_of_an_unknown_id_are_sent :
    ¬ ∀ (client : LocationAPIClientBase) (geofences : List (Nat × GeofenceOption)),
      client.PairsOwnOptions geofences (client.modifyWithOptions geofences true).2 := by
  intro own
  let client := ((new true).locAPIAddGeofences [(7, 1)] (some [3])).client
  obtain ⟨sends, _⟩ := own client [(5, ⟨1, 1000, 0⟩), (7, ⟨2, 2000, 0⟩)]
  have sent := sends (7, ⟨2, 2000, 0⟩) (by decide) (by decide)
  revert sent
  decide

/-- For ids with different sessions, each known id must find its own options at the
place that counts only the known ids before it. -/
theorem aligned_iff_of_distinct
    (distinct : ∀ (i j : Nat) (first second : Nat × GeofenceOption),
      geofences[i]? = some first → geofences[j]? = some second →
      0 < client.mGeofenceBiDict.getSession first.1 →
      client.mGeofenceBiDict.getSession first.1 = client.mGeofenceBiDict.getSession second.1 →
      i = j) :
    client.Aligned geofences ↔
      ∀ i geofence option, client.Lands geofences i geofence option → option = geofence.2 := by
  constructor
  · rintro ⟨given, _⟩ i geofence option lands
    obtain ⟨own, member, session, rfl⟩ := given i geofence option lands
    obtain ⟨j, there⟩ := List.mem_iff_getElem?.mp member
    cases distinct i j geofence own lands.1 there lands.2.1 session.symm
    rw [Option.some.inj (there.symm.trans lands.1)]
  · intro own
    refine ⟨fun i geofence option lands => ?_, fun geofence member positive => ?_⟩
    · exact ⟨geofence, List.mem_of_getElem? lands.1, rfl, (own i geofence option lands).symm⟩
    · obtain ⟨i, here⟩ := List.mem_iff_getElem?.mp member
      obtain ⟨inside, _⟩ := List.getElem?_eq_some_iff.mp here
      have earlier : client.rank geofences i < geofences.length :=
        Nat.lt_of_le_of_lt (List.countP_le_length.trans (List.length_take_le i geofences)) inside
      have found : ∃ moved, geofences[client.rank geofences i]? = some moved :=
        ⟨_, List.getElem?_eq_getElem earlier⟩
      obtain ⟨moved, found⟩ := found
      have lands : client.Lands geofences i geofence moved.2 :=
        ⟨here, positive, congrArg (Option.map Prod.snd) found⟩
      exact ⟨i, geofence, own i geofence _ lands ▸ lands, rfl⟩

/-! What the call does to the client does not depend on the rest of the options -/

private theorem remask_of_unknown {geofences : List (Nat × Nat)} {dict : BiDict Nat}
    (unknown : ∀ geofence ∈ geofences, ¬ 0 < dict.getSession geofence.1) :
    geofences.foldl remaskGeofence dict = dict := by
  induction geofences with
  | nil => rfl
  | cons geofence rest ih =>
    rw [List.forall_mem_cons] at unknown
    rw [List.foldl_cons, remaskGeofence, if_neg unknown.1]
    exact ih unknown.2

theorem modifyWithOptions_client (client : LocationAPIClientBase)
    (geofences : List (Nat × GeofenceOption)) :
    (client.modifyWithOptions geofences true).1 = (client.locAPIModifyGeofences
      (geofences.map fun geofence => (geofence.1, geofence.2.breachTypeMask))).client := by
  have ids : client.knownSessions ((geofences.map fun geofence =>
      (geofence.1, geofence.2.breachTypeMask)).map Prod.fst) =
      (geofences.map fun geofence => client.mGeofenceBiDict.getSession geofence.1).filter
        (· > 0) := by
    rw [knownSessions, List.map_map, List.map_map]
    rfl
  simp only [modifyWithOptions, locAPIModifyGeofences, modifyGeofence_loop, List.nil_append, ids,
    true_and]
  split
  · split
    · next none_known =>
      have unknown := List.filter_eq_nil_iff.mp (List.isEmpty_iff.mp none_known)
      refine congrArg (fun dict => { client with mGeofenceBiDict := dict }) ?_
      apply remask_of_unknown
      intro geofence member
      obtain ⟨given, inside, rfl⟩ := List.mem_map.mp member
      simpa using unknown _ (List.mem_map_of_mem inside)
    · rfl
  · rfl

end LocationAPIClientBase
end Msm8917Common.Location
