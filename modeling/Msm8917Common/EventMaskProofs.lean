import Msm8917Common.BitSets
import Msm8917Common.EventMask
import Msm8917Common.Runs

/-! The mask against what it is worked out from. As sets of events: a message either
recomputes the mask, or adds one event to it, or leaves it alone, and then it is
right exactly if what is wanted changes in the same way. -/
namespace Msm8917Common.Gnss.EventMask
open Runs BitSets

def GnssAdapter.SomeClient (adapter : GnssAdapter) (has : LocationCallbacks → Bool) : Prop :=
  ∃ client ∈ adapter.mClientData.entries, has client.2 = true

/-- Whether anybody wants an event. -/
def GnssAdapter.Wants (adapter : GnssAdapter) : AdapterEvent → Prop
  | .reportPosition => adapter.SomeClient (·.trackingCb)
  | .reportSatellite => adapter.SomeClient (·.gnssSvCb)
  | .reportNmea1Hz => adapter.SomeClient (·.gnssNmeaCb) ∧ adapter.mNmeaMask ≠ 0
  | .requestNiNotifyVerify => adapter.SomeClient (·.gnssNiCb)
  | .requestLocationServer => adapter.mAgpsCbInfo.statusV4Cb = true
  | .requestWifi => adapter.mOdcpiRequestCb = true
  | .gnssSvPolynomialReport => adapter.mGps_conf.EXTERNAL_DR_ENABLED = 1
  | .gnssMeasurement =>
    adapter.SomeClient (·.gnssMeasurementsCb) ∨ adapter.mGps_conf.EXTERNAL_DR_ENABLED = 1

/-- The mask is the one that `updateClientsEventMask` would set now. -/
def FollowsInputs (adapter : GnssAdapter) : Prop := adapter.mEvtMask = adapter.clientsEventMask

instance (adapter : GnssAdapter) : Decidable (FollowsInputs adapter) :=
  inferInstanceAs (Decidable (_ = _))

section Events

theorem index_injective : Function.Injective AdapterEvent.index := by
  intro event other same
  cases event <;> cases other <;> first | rfl | cases same

@[simp] theorem members_bit (event : AdapterEvent) :
    members event.bit = AdapterEvent.index '' {event} := by
  rw [Set.image_singleton]
  apply members_one_shiftLeft
  cases event <;> decide

/-- A bit that is added under a condition. -/
theorem members_ite (asks : Prop) [Decidable asks] (mask : BitVec 64) (event : AdapterEvent) :
    members (if asks then mask ||| event.bit else mask) =
      members mask ∪ AdapterEvent.index '' {other | asks ∧ other = event} := by
  split
  · next holds => simp [holds]
  · next fails => simp [fails]

/-- What one client wants. -/
def clientWants (mNmeaMask : BitVec 32) (callbacks : LocationCallbacks) : Set AdapterEvent :=
  {event | callbacks.trackingCb = true ∧ event = .reportPosition} ∪
    {event | callbacks.gnssNiCb = true ∧ event = .requestNiNotifyVerify} ∪
    {event | callbacks.gnssSvCb = true ∧ event = .reportSatellite} ∪
    {event | (callbacks.gnssNmeaCb && mNmeaMask != 0) = true ∧ event = .reportNmea1Hz} ∪
    {event | callbacks.gnssMeasurementsCb = true ∧ event = .gnssMeasurement}

theorem addClientEvents_members (mNmeaMask : BitVec 32) (mask : BitVec 64)
    (callbacks : LocationCallbacks) :
    members (GnssAdapter.addClientEvents mNmeaMask mask callbacks) =
      members mask ∪ AdapterEvent.index '' clientWants mNmeaMask callbacks := by
  simp only [GnssAdapter.addClientEvents, members_ite, clientWants, Set.image_union,
    Set.union_assoc]

/-- The mask that is worked out has the bits of the events that are wanted, and no
others. -/
theorem clientsEventMask_members (adapter : GnssAdapter) :
    members adapter.clientsEventMask = AdapterEvent.index '' {event | adapter.Wants event} := by
  have dr : ∀ mask : BitVec 64,
      members (if adapter.mGps_conf.EXTERNAL_DR_ENABLED = 1 then
        mask ||| AdapterEvent.gnssMeasurement.bit ||| AdapterEvent.gnssSvPolynomialReport.bit
        else mask) = members mask ∪ AdapterEvent.index '' {event |
          adapter.mGps_conf.EXTERNAL_DR_ENABLED = 1 ∧
            (event = .gnssMeasurement ∨ event = .gnssSvPolynomialReport)} := by
    intro mask
    split
    · next enabled =>
      simp only [members_or, members_bit, Set.union_assoc, ← Set.image_union]
      congr 2
      ext event
      simp [enabled, or_comm]
    · next disabled => simp [disabled]
  have clients : members (adapter.mClientData.entries.foldl (fun mask client =>
        GnssAdapter.addClientEvents adapter.mNmeaMask mask client.2) 0) =
      AdapterEvent.index '' ⋃ client ∈ adapter.mClientData.entries,
        clientWants adapter.mNmeaMask client.2 := by
    rw [members_foldl (fun mask client => addClientEvents_members _ mask client.2)]
    simp only [Set.image_iUnion₂, BitVec.ofNat_eq_ofNat, members_zero, Set.empty_union]
  simp only [GnssAdapter.clientsEventMask, members_ite, dr, clients, ← Set.image_union]
  congr 1
  ext event
  simp only [Set.mem_union, Set.mem_iUnion, clientWants, Set.mem_ofPred_eq]
  by_cases nmea : adapter.mNmeaMask = 0#32 <;>
    cases event <;> simp [GnssAdapter.Wants, GnssAdapter.SomeClient, nmea, and_comm]

/-- Two masks with these sets of events are the same exactly if the sets are. -/
theorem follows_iff {adapter : GnssAdapter} {registered : Set AdapterEvent}
    (bits : members adapter.mEvtMask = AdapterEvent.index '' registered) :
    FollowsInputs adapter ↔ ∀ event, event ∈ registered ↔ adapter.Wants event := by
  rw [FollowsInputs, ← members_injective.eq_iff, bits, clientsEventMask_members,
    index_injective.image_injective.eq_iff]
  exact Set.ext_iff

end Events

/-- What a message must meet so that the mask goes on following its inputs: what it
changes without working the mask out anew makes no event wanted, or unwanted, that
it does not register itself. -/
def KeepsMask (adapter : GnssAdapter) (env : Environment) : AdapterMsg → Prop
  | .readConfig =>
    adapter.mGps_conf.EXTERNAL_DR_ENABLED = 1 ↔
      (adapter.mGps_conf.readConfig env).EXTERNAL_DR_ENABLED = 1
  | .setConfig =>
    adapter.SomeClient (·.gnssNmeaCb) →
      (adapter.mNmeaMask ≠ 0 ↔
        adapter.mGps_conf.NMEA_PROVIDER = nmeaProviderMp ∨ env.debugNmeaSupported = true)
  | .initAgps cbInfo =>
    adapter.agpsCapable = true → adapter.mAgpsCbInfo.cbPriority.value ≤ cbInfo.cbPriority.value →
      cbInfo.statusV4Cb = true
  | .initOdcpi callback => callback = true
  | .initDefaultAgps | .addClient _ _ | .removeClient _ | .restartSessions => True

section Messages
variable {adapter : GnssAdapter}

/-- What is registered is what is wanted. -/
theorem registered_of_follows (follows : FollowsInputs adapter) :
    members adapter.mEvtMask = AdapterEvent.index '' {event | adapter.Wants event} := by
  rw [follows]
  exact clientsEventMask_members adapter

theorem updateClientsEventMask_follows (adapter : GnssAdapter) :
    FollowsInputs adapter.updateClientsEventMask := rfl

/-- One more event is registered. -/
theorem enabled_members (registered : members adapter.mEvtMask =
      AdapterEvent.index '' {event | adapter.Wants event}) (event : AdapterEvent) :
    members (adapter.mEvtMask ||| event.bit) =
      AdapterEvent.index '' {other | adapter.Wants other ∨ other = event} := by
  rw [members_or, registered, members_bit, ← Set.image_union]
  rfl

/-- A message that leaves the mask alone is right exactly if it changes nothing about
what is wanted. -/
theorem unchanged_follows_iff (follows : FollowsInputs adapter) (next : GnssAdapter)
    (mask : next.mEvtMask = adapter.mEvtMask) :
    FollowsInputs next ↔ ∀ event, adapter.Wants event ↔ next.Wants event :=
  follows_iff (mask ▸ registered_of_follows follows)

/-- A message that registers an event beside what it changes is right exactly if
somebody wants that event now. -/
theorem enabled_follows_iff (follows : FollowsInputs adapter) (next : GnssAdapter)
    (event : AdapterEvent) (mask : next.mEvtMask = adapter.mEvtMask ||| event.bit)
    (others : ∀ other, other ≠ event → (adapter.Wants other ↔ next.Wants other)) :
    FollowsInputs next ↔ next.Wants event := by
  rw [follows_iff (mask ▸ enabled_members (registered_of_follows follows) event)]
  constructor
  · exact fun same => (same event).mp (.inr rfl)
  · intro wanted other
    by_cases here : other = event
    · subst here
      exact iff_of_true (.inr rfl) wanted
    · rw [← others other here]
      exact or_iff_left here

theorem nmeaTypes_ne_zero_iff (env : Environment) : adapter.nmeaTypes env ≠ 0 ↔
    adapter.mGps_conf.NMEA_PROVIDER = nmeaProviderMp ∨ env.debugNmeaSupported = true := by
  unfold GnssAdapter.nmeaTypes
  by_cases provider : adapter.mGps_conf.NMEA_PROVIDER = nmeaProviderMp <;>
    cases env.debugNmeaSupported <;> simp [provider] <;> decide

theorem readConfig_follows_iff (follows : FollowsInputs adapter) (env : Environment) :
    FollowsInputs (adapter.readConfig env) ↔ KeepsMask adapter env .readConfig := by
  rw [unchanged_follows_iff follows (adapter.readConfig env) rfl]
  constructor
  · exact fun same => same .gnssSvPolynomialReport
  · intro keeps event
    cases event with
    | gnssSvPolynomialReport => exact keeps
    | gnssMeasurement => exact or_congr Iff.rfl keeps
    | _ => exact Iff.rfl

theorem setConfig_follows_iff (follows : FollowsInputs adapter) (env : Environment) :
    FollowsInputs (adapter.setConfig env) ↔ KeepsMask adapter env .setConfig := by
  rw [unchanged_follows_iff follows (adapter.setConfig env) rfl, KeepsMask,
    ← nmeaTypes_ne_zero_iff, ← and_congr_right_iff]
  constructor
  · exact fun same => same .reportNmea1Hz
  · intro keeps event
    cases event with
    | reportNmea1Hz => exact keeps
    | _ => exact Iff.rfl

theorem initAgps_follows_iff (follows : FollowsInputs adapter) (env : Environment)
    (cbInfo : AgpsCbInfo) :
    FollowsInputs (adapter.initAgps cbInfo) ↔ KeepsMask adapter env (.initAgps cbInfo) := by
  unfold GnssAdapter.initAgps KeepsMask
  split
  · next incapable =>
    exact iff_of_true follows fun capable => absurd incapable (by simp [capable])
  · next capable =>
    split
    · next below =>
      exact iff_of_true follows fun _ above => absurd below (Nat.not_lt.mpr above)
    · next above =>
      rw [enabled_follows_iff follows _ .requestLocationServer rfl]
      · constructor
        · exact fun wanted _ _ => wanted
        · exact fun keeps => keeps (by simpa using capable) (Nat.not_lt.mp above)
      · intro other differs
        cases other with
        | requestLocationServer => exact absurd rfl differs
        | _ => exact Iff.rfl

theorem initOdcpi_follows_iff (follows : FollowsInputs adapter) (callback : Bool) :
    FollowsInputs (adapter.initOdcpi callback) ↔ callback = true := by
  refine enabled_follows_iff follows (adapter.initOdcpi callback) .requestWifi rfl
    fun other differs => ?_
  cases other with
  | requestWifi => exact absurd rfl differs
  | _ => exact Iff.rfl

/-- A message leaves the mask right exactly if it meets its condition. -/
theorem proc_follows_iff (follows : FollowsInputs adapter) (env : Environment)
    (msg : AdapterMsg) : FollowsInputs (msg.proc adapter env) ↔ KeepsMask adapter env msg := by
  cases msg with
  | readConfig => exact readConfig_follows_iff follows env
  | setConfig => exact setConfig_follows_iff follows env
  | initDefaultAgps =>
    refine iff_of_true ?_ trivial
    simp only [AdapterMsg.proc, GnssAdapter.initDefaultAgps]
    cases env.getAgpsCbInfo with
    | none => exact follows
    | some cbInfo =>
      simp only
      split
      · exact follows
      · next there =>
        exact (initAgps_follows_iff follows env cbInfo).mpr fun _ _ => by simpa using there
  | addClient client callbacks => exact iff_of_true (updateClientsEventMask_follows _) trivial
  | removeClient client => exact iff_of_true (updateClientsEventMask_follows _) trivial
  | initAgps cbInfo => exact initAgps_follows_iff follows env cbInfo
  | initOdcpi callback => exact initOdcpi_follows_iff follows callback
  | restartSessions => exact iff_of_true follows trivial

end Messages

/-- The message that is processed meets its condition. -/
def MsgKeepsMask (world : MaskWorld) (input : MaskInput) : Prop :=
  ∀ env msg, input = .proc env → world.queue.head? = some msg → KeepsMask world.adapter env msg

theorem step_follows_iff (world : MaskWorld) (input : MaskInput)
    (follows : FollowsInputs world.adapter) :
    FollowsInputs (world.step input).adapter ↔ MsgKeepsMask world input := by
  cases input with
  | proc env =>
    cases waiting : world.queue with
    | nil =>
      have same : world.step (.proc env) = world := by simp only [MaskWorld.step, waiting]
      rw [same]
      exact iff_of_true follows fun _ _ _ head => by simp [waiting] at head
    | cons msg rest =>
      have processed : (world.step (.proc env)).adapter = msg.proc world.adapter env := by
        simp only [MaskWorld.step, waiting]
      have first : world.queue.head? = some msg := by rw [waiting, List.head?_cons]
      rw [processed, proc_follows_iff follows env msg]
      constructor
      · rintro keeps _ other ⟨⟩ head
        cases first.symm.trans head
        exact keeps
      · exact fun keeps => keeps env msg rfl first
  | _ => exact iff_of_true follows (by simp [MsgKeepsMask])

/-- From the construction on, over any run of commands and messages, the mask is
always the one that would be worked out now, exactly if every message keeps it. -/
theorem mask_follows_iff_messages_keep_it (inputs : List MaskInput) :
    (∀ world ∈ states MaskWorld.step .start inputs, FollowsInputs world.adapter) ↔
      ∀ taken ∈ steps MaskWorld.step .start inputs, MsgKeepsMask taken.1 taken.2 :=
  always_iff_each_step (fun _ _ (_ : True) => trivial)
    (fun world input _ follows => step_follows_iff world input follows) inputs trivial rfl

/-- A client registers for NMEA before the engine says that it supports it. Once the
engine is up, nobody registers the adapter for what the client wants. -/
theorem early_nmea_client_is_never_registered :
    ¬ ∀ inputs : List MaskInput,
      ∀ world ∈ states MaskWorld.step .start inputs, FollowsInputs world.adapter := by
  intro always
  have follows := always [.proc ⟨none, none, none, false, none⟩,
    .proc ⟨none, none, none, false, none⟩, .proc ⟨none, none, none, false, none⟩,
    .addClientCommand 1 ⟨false, false, false, true, false⟩, .proc ⟨none, none, none, false, none⟩,
    .handleEngineUpEvent, .proc ⟨none, none, none, true, none⟩] _ (end_mem_states _ _)
  exact absurd follows (by decide)

end Msm8917Common.Gnss.EventMask
