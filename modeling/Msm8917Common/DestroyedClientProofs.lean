import Msm8917Common.LocationAPI
import Msm8917Common.Runs

/-! A destroyed client against the adapters that still call it. `destroy` removes the
client from the adapters that its last callbacks name, and an update that names fewer
of them leaves it in the others. -/
namespace Msm8917Common.Location.DestroyedClientProofs
open Runs

/-- The clients of the process, and for each adapter the clients that it holds and the
commands that it has yet to do. `given` and `added` keep, for the life of an object, the
callbacks it was given and the adapters that it was added to. -/
structure ClientsWorld where
  data : LocationAPIData
  held : Adapter → AList fun _ : Nat => LocationCallbacks
  commands : Adapter → List ClientCommand
  given : Nat → List LocationCallbacks
  added : Nat → List Adapter

inductive ClientsInput where
  | createInstance (client : Nat) (locationCallbacks : LocationCallbacks) (found : Adapter → Bool)
  | updateCallbacks (client : Nat) (locationCallbacks : LocationCallbacks) (found : Adapter → Bool)
  | destroy (client : Nat)
  | proc (adapter : Adapter)

/-- The commands of a call that go to one adapter. -/
def issuedTo (adapter : Adapter) (issued : List (Adapter × ClientCommand)) : List ClientCommand :=
  (issued.filter (·.1 = adapter)).map Prod.snd

/-- The adapters that a call adds its client to. -/
def addedBy (issued : List (Adapter × ClientCommand)) : List Adapter :=
  Adapter.all.filter fun adapter => issued.any fun command =>
    match command with
    | (other, .addClient _ _) => other = adapter
    | _ => false

namespace ClientsWorld
variable (world : ClientsWorld)

def start : ClientsWorld where
  data := ⟨∅, fun _ => false, fun _ => false⟩
  held := fun _ => ∅
  commands := fun _ => []
  given := fun _ => []
  added := fun _ => []

def issue (result : LocationAPIData × List (Adapter × ClientCommand)) : ClientsWorld :=
  { world with
    data := result.1
    commands := fun adapter => world.commands adapter ++ issuedTo adapter result.2 }

/-- `new` returns no address that is in use, and calls are made on objects that live;
other inputs are no calls. -/
def step (world : ClientsWorld) : ClientsInput → ClientsWorld
  | .createInstance client locationCallbacks found =>
    if client ∈ world.data.clientData ∨ locationCallbacks.hasMandatory = false then world
    else
      let result := world.data.createInstance client locationCallbacks found
      { world.issue result with
        given := Function.update world.given client [locationCallbacks]
        added := Function.update world.added client (addedBy result.2) }
  | .updateCallbacks client locationCallbacks found =>
    if client ∈ world.data.clientData ∧ locationCallbacks.hasMandatory = true then
      let result := world.data.updateCallbacks client locationCallbacks found
      { world.issue result with
        given := Function.update world.given client (locationCallbacks :: world.given client)
        added := Function.update world.added client (addedBy result.2 ++ world.added client) }
    else world
  | .destroy client => world.issue (world.data.destroy client)
  | .proc adapter =>
    match world.commands adapter with
    | [] => world
    | command :: rest =>
      { world with
        held := Function.update world.held adapter (command.proc (world.held adapter))
        commands := Function.update world.commands adapter rest }

/-- What an adapter holds once it has done the commands that it was given. -/
def settled (adapter : Adapter) : AList fun _ : Nat => LocationCallbacks :=
  (world.commands adapter).foldl ClientCommand.proc (world.held adapter)

end ClientsWorld

/-- Every client that an adapter holds lives, and was added to it in this life. -/
def HeldAreLive (world : ClientsWorld) : Prop :=
  ∀ adapter, ∀ client ∈ world.settled adapter,
    client ∈ world.data.clientData ∧ adapter ∈ world.added client

/-- A client that is destroyed is removed from every adapter that it was added to. -/
def RemovedWhereAdded (world : ClientsWorld) (input : ClientsInput) : Prop :=
  ∀ client ∈ world.data.clientData, input = .destroy client → ∀ adapter ∈ world.added client,
    (adapter, .removeClient client) ∈ (world.data.destroy client).2

/-- The last callbacks of a client that is destroyed name each adapter, of those that
could be loaded, that any of its callbacks named. -/
def LastCallbacksNameAll (world : ClientsWorld) (input : ClientsInput) : Prop :=
  ∀ client callbacks, input = .destroy client →
    world.data.clientData.lookup client = some callbacks →
      ∀ adapter, world.data.interface adapter = true →
        ∀ earlier ∈ world.given client, earlier.isClient adapter = true →
          callbacks.isClient adapter = true

/-- What an adapter does leaves no client that was not held or added, and none whose
removal comes with no addition. -/
private theorem mem_after_commands {commands : List ClientCommand}
    {held : AList fun _ : Nat => LocationCallbacks} {client : Nat}
    (member : client ∈ commands.foldl ClientCommand.proc held) :
    (∃ callbacks, .addClient client callbacks ∈ commands) ∨
      client ∈ held ∧ .removeClient client ∉ commands := by
  induction commands generalizing held with
  | nil => exact Or.inr ⟨member, List.not_mem_nil⟩
  | cons command rest ih =>
    rcases ih member with ⟨callbacks, added⟩ | ⟨before, notRemoved⟩
    · exact Or.inl ⟨callbacks, List.mem_cons_of_mem _ added⟩
    cases command with
    | addClient other callbacks =>
      rcases (AList.mem_insert _).mp before with same | earlier
      · exact Or.inl ⟨callbacks, same ▸ List.mem_cons_self⟩
      · exact Or.inr ⟨earlier, by simpa using notRemoved⟩
    | requestCapabilities other => exact Or.inr ⟨before, by simpa using notRemoved⟩
    | removeClient other =>
      obtain ⟨different, earlier⟩ := AList.mem_erase.mp before
      exact Or.inr ⟨earlier, by simpa using ⟨different, notRemoved⟩⟩

@[simp] theorem mem_issuedTo {adapter : Adapter} {issued : List (Adapter × ClientCommand)}
    {command : ClientCommand} :
    command ∈ issuedTo adapter issued ↔ (adapter, command) ∈ issued := by
  simp [issuedTo]

theorem Adapter.mem_all (adapter : Adapter) : adapter ∈ Adapter.all := by
  cases adapter <;> decide

theorem mem_addedBy {adapter : Adapter} {issued : List (Adapter × ClientCommand)} :
    adapter ∈ addedBy issued ↔
      ∃ client callbacks, (adapter, .addClient client callbacks) ∈ issued := by
  simp only [addedBy, List.mem_filter, Adapter.mem_all, true_and, List.any_eq_true]
  constructor
  · rintro ⟨⟨other, command⟩, member, named⟩
    cases command with
    | addClient client callbacks =>
      cases of_decide_eq_true named
      exact ⟨client, callbacks, member⟩
    | requestCapabilities client => cases named
    | removeClient client => cases named
  · rintro ⟨client, callbacks, member⟩
    exact ⟨_, member, decide_eq_true rfl⟩

section Load
variable {data : LocationAPIData}

theorem load_interface (adapter other : Adapter) (found : Bool) :
    (data.load adapter found).interface other = true ↔
      data.interface other = true ∨
        other = adapter ∧ data.loadFailed other = false ∧ found = true := by
  unfold LocationAPIData.load
  by_cases same : other = adapter
  · subst same
    cases interface : data.interface other <;> cases data.loadFailed other <;>
      cases found <;> simp [interface]
  · split
    · cases found <;> simp [same, Function.update_of_ne]
    · simp [same]

theorem load_loadFailed (adapter other : Adapter) (found : Bool) :
    (data.load adapter found).loadFailed other = true ↔
      data.loadFailed other = true ∨
        other = adapter ∧ data.interface other = false ∧ found = false := by
  unfold LocationAPIData.load
  by_cases same : other = adapter
  · subst same
    cases data.interface other <;> cases failed : data.loadFailed other <;>
      cases found <;> simp [failed]
  · split
    · cases found <;> simp [same, Function.update_of_ne]
    · simp [same]

@[simp] theorem load_clientData (adapter : Adapter) (found : Bool) :
    (data.load adapter found).clientData = data.clientData := by
  unfold LocationAPIData.load
  split
  · split <;> rfl
  · rfl

end Load

/-- Where a call stands that started from `data` and has tried some adapters. -/
structure Tried (data : LocationAPIData) (client : Nat) (callbacks : LocationCallbacks)
    (tried : List Adapter) (call : LocationAPICall) : Prop where
  clients : call.data.clientData = data.clientData
  interface : ∀ adapter, data.interface adapter = true → call.data.interface adapter = true
  loadFailed : ∀ adapter, data.loadFailed adapter = true → call.data.loadFailed adapter = true
  found : ∀ adapter, call.data.interface adapter = true →
    data.interface adapter = true ∨ data.loadFailed adapter = false
  decided : ∀ adapter ∈ tried, callbacks.isClient adapter = true →
    call.data.interface adapter = true ∨ call.data.loadFailed adapter = true
  added : ∀ adapter other given, (adapter, .addClient other given) ∈ call.issued ↔
    other = client ∧ given = callbacks ∧ adapter ∈ tried ∧ callbacks.isClient adapter = true ∧
      call.data.interface adapter = true
  notRemoved : ∀ adapter other, (adapter, .removeClient other) ∉ call.issued

section Call
variable {data : LocationAPIData} {client : Nat} {callbacks : LocationCallbacks}
  {tried : List Adapter} {call : LocationAPICall}

/-- Trying the interface of one adapter leaves it loaded or failed. -/
private theorem load_decides (adapter : Adapter) (found : Bool) :
    (data.load adapter found).interface adapter = true ∨
      (data.load adapter found).loadFailed adapter = true := by
  rw [load_interface, load_loadFailed]
  cases data.interface adapter <;> cases data.loadFailed adapter <;> cases found <;> simp

theorem Tried.add (found : Adapter → Bool) (adapter : Adapter) (new : adapter ∉ tried)
    (state : Tried data client callbacks tried call) :
    Tried data client callbacks (tried ++ [adapter])
      (call.add client callbacks found adapter) := by
  cases named : callbacks.isClient adapter
  case false =>
    have same : call.add client callbacks found adapter = call := by
      simp [LocationAPICall.add, named]
    rw [same]
    refine { state with decided := fun other member isClient => ?_
                        added := fun other _ given => ?_ }
    · rcases List.mem_append.mp member with earlier | now
      · exact state.decided other earlier isClient
      · cases List.mem_singleton.mp now
        cases named.symm.trans isClient
    · rw [state.added]
      by_cases now : other = adapter
      · simp [now, named]
      · simp [now]
  case true =>
    have data_eq : (call.add client callbacks found adapter).data =
        call.data.load adapter (found adapter) := by
      simp only [LocationAPICall.add, named, if_true]
      split <;> rfl
    have issued_eq : ∀ other command, (other, command) ∈
        (call.add client callbacks found adapter).issued ↔ (other, command) ∈ call.issued ∨
          (call.data.load adapter (found adapter)).interface adapter = true ∧
            ((other, command) = (adapter, .addClient client callbacks) ∨
              call.requestedCapabilities = false ∧
                (other, command) = (adapter, .requestCapabilities client)) := by
      intro other command
      simp only [LocationAPICall.add, named, if_true]
      split
      next loaded => cases call.requestedCapabilities <;> simp [loaded]
      next missing => simp [missing]
    have of_tried : ∀ other ∈ tried, other ≠ adapter :=
      fun other member same => new (same ▸ member)
    refine ⟨?_, fun other loaded => ?_, fun other failed => ?_, fun other loaded => ?_,
      fun other member isClient => ?_, fun other client' given => ?_, fun other client' => ?_⟩
    · rw [data_eq, load_clientData, state.clients]
    · rw [data_eq, load_interface]
      exact Or.inl (state.interface other loaded)
    · rw [data_eq, load_loadFailed]
      exact Or.inl (state.loadFailed other failed)
    · rw [data_eq, load_interface] at loaded
      rcases loaded with earlier | ⟨-, notFailed, -⟩
      · exact state.found other earlier
      · refine Or.inr (Bool.eq_false_iff.mpr fun failed => ?_)
        cases notFailed.symm.trans (state.loadFailed other failed)
    · rw [data_eq]
      rcases List.mem_append.mp member with earlier | now
      · rw [load_interface, load_loadFailed]
        exact (state.decided other earlier isClient).imp Or.inl Or.inl
      · cases List.mem_singleton.mp now
        exact load_decides adapter _
    · rw [issued_eq, state.added, data_eq]
      by_cases now : other = adapter
      · subst now
        simp [new, named, and_comm, and_assoc]
      · simp [load_interface, now]
    · rw [issued_eq]
      simp [state.notRemoved]

theorem tried_none (requestedCapabilities : Bool) :
    Tried data client callbacks [] ⟨data, [], requestedCapabilities⟩ where
  clients := rfl
  interface _ loaded := loaded
  loadFailed _ failed := failed
  found _ loaded := Or.inl loaded
  decided _ member := absurd member List.not_mem_nil
  added := by simp
  notRemoved _ _ := List.not_mem_nil

/-- `createInstance` and `updateCallbacks` go through all adapters in the same way. -/
theorem tried_all (found : Adapter → Bool) (requestedCapabilities : Bool) :
    Tried data client callbacks Adapter.all
      (Adapter.all.foldl (LocationAPICall.add client callbacks found)
        ⟨data, [], requestedCapabilities⟩) :=
  (((tried_none requestedCapabilities).add found .gnss (by decide)).add found .flp
    (by decide)).add found .geofence (by decide)

end Call

/-- A client was added to the adapters that are there and that some of its callbacks
named, and every adapter that they named was looked for. -/
structure LivesAccounted (world : ClientsWorld) : Prop where
  added : ∀ client ∈ world.data.clientData, ∀ adapter, adapter ∈ world.added client ↔
    world.data.interface adapter = true ∧
      ∃ callbacks ∈ world.given client, callbacks.isClient adapter = true
  decided : ∀ client ∈ world.data.clientData, ∀ callbacks ∈ world.given client, ∀ adapter,
    callbacks.isClient adapter = true →
      world.data.interface adapter = true ∨ world.data.loadFailed adapter = true

section Step
variable {world : ClientsWorld}

@[simp] theorem settled_issue (result : LocationAPIData × List (Adapter × ClientCommand))
    (adapter : Adapter) :
    (world.issue result).settled adapter =
      (issuedTo adapter result.2).foldl ClientCommand.proc (world.settled adapter) :=
  List.foldl_append

/-- A command done is no longer to do, and changes nothing else. -/
theorem proc_settles (world : ClientsWorld) (adapter : Adapter) :
    (∀ other, (world.step (.proc adapter)).settled other = world.settled other) ∧
      (world.step (.proc adapter)).data = world.data ∧
      (world.step (.proc adapter)).given = world.given ∧
      (world.step (.proc adapter)).added = world.added := by
  simp only [ClientsWorld.step]
  split
  · exact ⟨fun _ => rfl, rfl, rfl, rfl⟩
  next command rest commands =>
    refine ⟨fun other => ?_, rfl, rfl, rfl⟩
    by_cases same : other = adapter
    · subst same
      simp [ClientsWorld.settled, commands]
    · simp [ClientsWorld.settled, same]

private theorem mem_until_removed {commands : List ClientCommand}
    {held : AList fun _ : Nat => LocationCallbacks} {client : Nat} (member : client ∈ held)
    (kept : .removeClient client ∉ commands) : client ∈ commands.foldl ClientCommand.proc held := by
  induction commands generalizing held with
  | nil => exact member
  | cons command rest ih =>
    obtain ⟨other, keptLater⟩ := List.ne_and_not_mem_of_not_mem_cons kept
    refine ih ?_ keptLater
    cases command with
    | addClient added callbacks => exact (AList.mem_insert _).mpr (Or.inr member)
    | requestCapabilities _ => exact member
    | removeClient removed =>
      exact AList.mem_erase.mpr ⟨fun same => other (congrArg _ same), member⟩

/-- An adapter holds a client that is gone only while its removal is on the way. -/
theorem held_lives_or_is_removed (fine : HeldAreLive world) {adapter : Adapter} {client : Nat}
    (held : client ∈ world.held adapter) :
    client ∈ world.data.clientData ∨ .removeClient client ∈ world.commands adapter := by
  by_cases removed : .removeClient client ∈ world.commands adapter
  · exact Or.inr removed
  · exact Or.inl (fine adapter client (mem_until_removed held removed)).1

/-- The world after a call that gives a client its callbacks, where the object was given
some before and added to some adapters. -/
private def afterGiving (world : ClientsWorld) (client : Nat) (callbacks : LocationCallbacks)
    (call : LocationAPICall) (earlier : List LocationCallbacks) (older : List Adapter) :
    ClientsWorld :=
  { world.issue (call.data.save client callbacks, call.issued) with
    given := Function.update world.given client (callbacks :: earlier)
    added := Function.update world.added client (addedBy call.issued ++ older) }

private theorem step_createInstance (world : ClientsWorld) (client : Nat)
    (callbacks : LocationCallbacks) (found : Adapter → Bool) :
    world.step (.createInstance client callbacks found) = world ∨
      client ∉ world.data.clientData ∧ ∃ call, Tried world.data client callbacks Adapter.all call ∧
        world.step (.createInstance client callbacks found) =
          afterGiving world client callbacks call [] [] := by
  simp only [ClientsWorld.step]
  split
  next none => exact Or.inl rfl
  next allowed =>
    obtain ⟨fresh, mandatory⟩ := not_or.mp allowed
    refine Or.inr ⟨fresh, _, tried_all found false, ?_⟩
    simp [LocationAPIData.createInstance, mandatory, afterGiving]

private theorem step_updateCallbacks (world : ClientsWorld) (client : Nat)
    (callbacks : LocationCallbacks) (found : Adapter → Bool) :
    world.step (.updateCallbacks client callbacks found) = world ∨
      client ∈ world.data.clientData ∧ ∃ call, Tried world.data client callbacks Adapter.all call ∧
        world.step (.updateCallbacks client callbacks found) =
          afterGiving world client callbacks call (world.given client) (world.added client) := by
  simp only [ClientsWorld.step]
  split
  next allowed =>
    obtain ⟨lives, mandatory⟩ := allowed
    refine Or.inr ⟨lives, _, tried_all found true, ?_⟩
    simp [LocationAPIData.updateCallbacks, mandatory, afterGiving]
  next none => exact Or.inl rfl

private theorem keepsLives_given {client : Nat} {callbacks : LocationCallbacks}
    {call : LocationAPICall} {earlier : List LocationCallbacks} {older : List Adapter}
    (accounted : LivesAccounted world) (tried : Tried world.data client callbacks Adapter.all call)
    (added : ∀ adapter, adapter ∈ older ↔ world.data.interface adapter = true ∧
      ∃ given ∈ earlier, given.isClient adapter = true)
    (decided : ∀ given ∈ earlier, ∀ adapter, given.isClient adapter = true →
      world.data.interface adapter = true ∨ world.data.loadFailed adapter = true) :
    LivesAccounted (afterGiving world client callbacks call earlier older) := by
  -- an adapter that was looked for before is not found now
  have interface_iff : ∀ adapter, (world.data.interface adapter = true ∨
      world.data.loadFailed adapter = true) →
        (call.data.interface adapter = true ↔ world.data.interface adapter = true) := by
    intro adapter looked
    refine ⟨fun loaded => ?_, tried.interface adapter⟩
    rcases tried.found adapter loaded with before | notFailed
    · exact before
    · rcases looked with before | failed
      · exact before
      · cases notFailed.symm.trans failed
  have mem_data : ∀ other,
      other ∈ (afterGiving world client callbacks call earlier older).data.clientData ↔
      other = client ∨ other ∈ world.data.clientData := by
    intro other
    rw [← tried.clients]
    exact AList.mem_insert _
  have mem_added : ∀ adapter, adapter ∈ addedBy call.issued ↔
      callbacks.isClient adapter = true ∧ call.data.interface adapter = true := by
    simp [mem_addedBy, tried.added, Adapter.mem_all]
  refine ⟨fun other lives adapter => ?_, fun other lives given member adapter named => ?_⟩
  · by_cases same : other = client
    · subst same
      simp only [afterGiving, Function.update_self, List.mem_append, mem_added, added,
        List.exists_mem_cons_iff]
      change _ ↔ call.data.interface adapter = true ∧ _
      constructor
      · rintro (⟨named, loaded⟩ | ⟨loaded, named⟩)
        · exact ⟨loaded, Or.inl named⟩
        · exact ⟨tried.interface adapter loaded, Or.inr named⟩
      · rintro ⟨loaded, named | ⟨given, member, named⟩⟩
        · exact Or.inl ⟨named, loaded⟩
        · exact Or.inr ⟨(interface_iff adapter (decided given member adapter named)).mp loaded,
            given, member, named⟩
    · have lives := ((mem_data other).mp lives).resolve_left same
      simp only [afterGiving, Function.update_of_ne same, accounted.added other lives]
      change _ ↔ call.data.interface adapter = true ∧ _
      apply and_congr_left
      rintro ⟨given, member, named⟩
      exact (interface_iff adapter (accounted.decided other lives given member adapter named)).symm
  · change call.data.interface adapter = true ∨ call.data.loadFailed adapter = true
    have still := fun looked : world.data.interface adapter = true ∨
        world.data.loadFailed adapter = true =>
      looked.imp (tried.interface adapter) (tried.loadFailed adapter)
    by_cases same : other = client
    · subst same
      simp only [afterGiving, Function.update_self] at member
      rcases List.mem_cons.mp member with rfl | before
      · exact tried.decided adapter (Adapter.mem_all adapter) named
      · exact still (decided given before adapter named)
    · have lives := ((mem_data other).mp lives).resolve_left same
      simp only [afterGiving, Function.update_of_ne same] at member
      exact still (accounted.decided other lives given member adapter named)

/-- A client that is given callbacks is held by no adapter that it was not added to. -/
private theorem keepsHeld_given {client : Nat} {callbacks : LocationCallbacks}
    {call : LocationAPICall} {earlier : List LocationCallbacks} {older : List Adapter}
    (held : HeldAreLive world) (tried : Tried world.data client callbacks Adapter.all call)
    (before : ∀ adapter, client ∈ world.settled adapter → adapter ∈ older) :
    HeldAreLive (afterGiving world client callbacks call earlier older) := by
  intro adapter other member
  have member : other ∈ (issuedTo adapter call.issued).foldl ClientCommand.proc
      (world.settled adapter) := by
    rw [← settled_issue (call.data.save client callbacks, call.issued)]
    exact member
  have lives : other = client ∨ other ∈ world.data.clientData →
      other ∈ (afterGiving world client callbacks call earlier older).data.clientData := by
    rw [← tried.clients]
    exact (AList.mem_insert _).mpr
  rcases mem_after_commands member with ⟨given, added⟩ | ⟨earlier, -⟩
  · rw [mem_issuedTo] at added
    obtain ⟨rfl, -⟩ := (tried.added adapter other given).mp added
    refine ⟨lives (Or.inl rfl), ?_⟩
    simp only [afterGiving, Function.update_self, List.mem_append]
    exact Or.inl (mem_addedBy.mpr ⟨_, _, added⟩)
  · obtain ⟨livesNow, addedNow⟩ := held adapter other earlier
    refine ⟨lives (Or.inr livesNow), ?_⟩
    by_cases same : other = client
    · subst same
      simp only [afterGiving, Function.update_self, List.mem_append]
      exact Or.inr (before adapter earlier)
    · simpa only [afterGiving, Function.update_of_ne same] using addedNow

private theorem mem_destroy {data : LocationAPIData} {client : Nat} {adapter : Adapter}
    {command : ClientCommand} :
    (adapter, command) ∈ (data.destroy client).2 ↔
      command = .removeClient client ∧ ∃ callbacks, data.clientData.lookup client = some callbacks ∧
        callbacks.isClient adapter = true ∧ data.interface adapter = true := by
  unfold LocationAPIData.destroy
  split
  next callbacks stored =>
    simp only [stored, List.mem_map, List.mem_filter, Adapter.mem_all, true_and,
      Bool.and_eq_true, Option.some.injEq, exists_eq_left']
    constructor
    · rintro ⟨other, named, same⟩
      obtain ⟨rfl, rfl⟩ := Prod.mk.inj same
      exact ⟨rfl, named⟩
    · rintro ⟨rfl, named⟩
      exact ⟨adapter, named, rfl⟩
  next unknown => simp [unknown]

private theorem destroy_data (data : LocationAPIData) (client : Nat) :
    (data.destroy client).1 = { data with clientData := data.clientData.erase client } := by
  unfold LocationAPIData.destroy
  split
  · rfl
  next unknown =>
    have absent : client ∉ data.clientData := AList.lookup_eq_none.mp unknown
    have same : data.clientData.erase client = data.clientData :=
      AList.ext (List.kerase_of_notMem_keys absent)
    rw [same]

theorem keepsLivesAccounted (input : ClientsInput) (accounted : LivesAccounted world) :
    LivesAccounted (world.step input) := by
  cases input with
  | createInstance client callbacks found =>
    obtain same | ⟨fresh, call, tried, same⟩ :=
      step_createInstance world client callbacks found
    · exact same.symm ▸ accounted
    · rw [same]
      exact keepsLives_given accounted tried (by simp) (by simp)
  | updateCallbacks client callbacks found =>
    obtain same | ⟨lives, call, tried, same⟩ :=
      step_updateCallbacks world client callbacks found
    · exact same.symm ▸ accounted
    · rw [same]
      exact keepsLives_given accounted tried (accounted.added client lives)
        (accounted.decided client lives)
  | destroy client =>
    have data : (world.step (.destroy client)).data = _ := destroy_data world.data client
    refine ⟨fun other member => ?_, fun other member => ?_⟩
    · rw [data] at member ⊢
      exact accounted.added other (AList.mem_erase.mp member).2
    · rw [data] at member ⊢
      exact accounted.decided other (AList.mem_erase.mp member).2
  | proc adapter =>
    obtain ⟨-, data, given, added⟩ := proc_settles world adapter
    refine ⟨?_, ?_⟩
    · rw [data, given, added]
      exact accounted.added
    · rw [data, given]
      exact accounted.decided

/-- A destroy that finds callbacks that name every adapter the client went to removes it
from all of them, and only such a destroy. -/
private theorem held_destroy_iff (client : Nat) (accounted : LivesAccounted world)
    (held : HeldAreLive world) :
    HeldAreLive (world.step (.destroy client)) ∧ RemovedWhereAdded world (.destroy client) ↔
      LastCallbacksNameAll world (.destroy client) := by
  have data : (world.step (.destroy client)).data = _ := destroy_data world.data client
  constructor
  · rintro ⟨-, removed⟩ other callbacks same stored adapter loaded earlier member named
    cases same
    have lives : client ∈ world.data.clientData :=
      AList.lookup_isSome.mp (stored ▸ rfl)
    have added := (accounted.added client lives adapter).mpr ⟨loaded, earlier, member, named⟩
    obtain ⟨-, found, storedToo, isClient, -⟩ :=
      mem_destroy.mp (removed client lives rfl adapter added)
    cases stored.symm.trans storedToo
    exact isClient
  · intro named
    have removed : RemovedWhereAdded world (.destroy client) := by
      intro other lives same adapter added
      cases same
      obtain ⟨callbacks, stored⟩ := Option.isSome_iff_exists.mp (AList.lookup_isSome.mpr lives)
      obtain ⟨loaded, earlier, member, isClient⟩ := (accounted.added client lives adapter).mp added
      exact mem_destroy.mpr ⟨rfl, callbacks, stored,
        named client callbacks rfl stored adapter loaded earlier member isClient, loaded⟩
    refine ⟨fun adapter other member => ?_, removed⟩
    have member : other ∈ (issuedTo adapter (world.data.destroy client).2).foldl
        ClientCommand.proc (world.settled adapter) := settled_issue _ adapter ▸ member
    rw [data]
    rcases mem_after_commands member with ⟨callbacks, added⟩ | ⟨before, notRemoved⟩
    · rw [mem_issuedTo] at added
      cases (mem_destroy.mp added).1
    · obtain ⟨lives, added⟩ := held adapter other before
      refine ⟨AList.mem_erase.mpr ⟨?_, lives⟩, added⟩
      rintro rfl
      exact notRemoved (mem_issuedTo.mpr (removed other lives rfl adapter added))

theorem held_step_iff (input : ClientsInput) (accounted : LivesAccounted world)
    (held : HeldAreLive world) :
    HeldAreLive (world.step input) ∧ RemovedWhereAdded world input ↔
      LastCallbacksNameAll world input := by
  cases input with
  | createInstance client callbacks found =>
    refine iff_of_true ⟨?_, by rintro _ _ ⟨⟩⟩ (by rintro _ _ ⟨⟩)
    obtain same | ⟨fresh, call, tried, same⟩ :=
      step_createInstance world client callbacks found
    · exact same.symm ▸ held
    · rw [same]
      exact keepsHeld_given held tried fun adapter member =>
        absurd (held adapter client member).1 fresh
  | updateCallbacks client callbacks found =>
    refine iff_of_true ⟨?_, by rintro _ _ ⟨⟩⟩ (by rintro _ _ ⟨⟩)
    obtain same | ⟨lives, call, tried, same⟩ :=
      step_updateCallbacks world client callbacks found
    · exact same.symm ▸ held
    · rw [same]
      exact keepsHeld_given held tried fun adapter member => (held adapter client member).2
  | destroy client => exact held_destroy_iff client accounted held
  | proc adapter =>
    refine iff_of_true ⟨fun other client member => ?_, by rintro _ _ ⟨⟩⟩ (by rintro _ _ ⟨⟩)
    obtain ⟨settled, data, -, added⟩ := proc_settles world adapter
    rw [data, added]
    exact held other client (settled other ▸ member)

end Step

private theorem start_accounted : LivesAccounted ClientsWorld.start where
  added _ member := absurd member (AList.notMem_empty _)
  decided _ member := absurd member (AList.notMem_empty _)

/-- In every run of clients that come, change their callbacks and go, while the adapters
do their commands, no adapter is left with a client that is gone, and each destroy removes
the client wherever it was added, exactly when the last callbacks of each client that is
destroyed still name every adapter that any of its callbacks named. -/
theorem no_adapter_keeps_a_destroyed_client_iff (inputs : List ClientsInput) :
    ((∀ world ∈ states ClientsWorld.step .start inputs, HeldAreLive world) ∧
        ∀ taken ∈ steps ClientsWorld.step .start inputs, RemovedWhereAdded taken.1 taken.2) ↔
      ∀ taken ∈ steps ClientsWorld.step .start inputs, LastCallbacksNameAll taken.1 taken.2 :=
  always_with_events_iff_each_step (fun _ => keepsLivesAccounted) (fun _ => held_step_iff)
    inputs start_accounted fun _ _ member => absurd member (AList.notMem_empty _)

/-- A tracking client is updated to geofences only, and destroyed. -/
def narrowedAndDestroyed : List ClientsInput :=
  [.createInstance 1 ⟨true, true, true, true, false, false, false, false, false⟩ fun _ => true,
    .updateCallbacks 1 ⟨true, true, true, false, false, true, false, false, false⟩ fun _ => true,
    .destroy 1]

/-- The GNSS adapter is left with it. -/
theorem narrowed_client_stays_in_the_adapters :
    ¬ ∀ inputs : List ClientsInput,
      (∀ world ∈ states ClientsWorld.step .start inputs, HeldAreLive world) ∧
        ∀ taken ∈ steps ClientsWorld.step .start inputs, RemovedWhereAdded taken.1 taken.2 := by
  intro all
  have held := (all narrowedAndDestroyed).1 _ (end_mem_states _ _) .gnss 1
  have keeps : 1 ∈ (narrowedAndDestroyed.foldl ClientsWorld.step .start).settled .gnss := by
    decide
  have gone : 1 ∉ (narrowedAndDestroyed.foldl ClientsWorld.step .start).data.clientData := by
    decide
  exact gone (held keeps).1

end Msm8917Common.Location.DestroyedClientProofs
