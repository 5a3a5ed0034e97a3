import Mathlib.Data.List.Induction
import Msm8917Common.RequestQueueProofs
import Msm8917Common.Runs

/-! Which request a response reaches. The queues are shared by the adapters and only
the numbers of the tracking session and of the NI session are compared, so a request
is found exactly if it is the oldest of its queue that still waits for an answer and
no queue that is searched earlier has requests under the same number. -/
namespace Msm8917Common.Location.RequestMatchingProofs
open Runs RequestWorld RequestQueueProofs LocationAPIClientBase

/-- A response reaches the request of the call that made the command, and the response
to a command that no request waits for reaches none. -/
def Matched (world : RequestWorld) : RequestInput → Prop
  | .answer adapter _ => ∀ command, world.next adapter = some command →
    (world.receive command).2 = command.request.map Prod.snd
  | _ => True

/-- No request is queued whose response has arrived. -/
def NoneLeft (world : RequestWorld) : Prop :=
  ∀ type, ∀ request ∈ (world.client.mRequestQueues type).mQueue,
    request.address ∉ world.answered

/-- The queues that are searched first have no request under this number. -/
def Unclaimed (world : RequestWorld) (session : Nat) : Prop :=
  ((world.client.mRequestQueues .tracking).mSession = session →
      world.outstanding .tracking = []) ∧
    ((world.client.mRequestQueues .tracking).mSession ≠ session →
      (world.client.mRequestQueues .niResponse).mSession = session →
        world.outstanding .niResponse = [])

/-- A session number leads to the queue of a request. -/
def Leads (world : RequestWorld) (session : Nat) : RequestType → Prop
  | .niResponse => (world.client.mRequestQueues .tracking).mSession ≠ session
  | .session => world.client.mSessionBiDict.hasSession session = true ∧ Unclaimed world session
  | .tracking | .geofence => True

/-- An answer to a command with a request is in turn if no older request of the same
queue waits, and the session leads to that queue. One to a command without a request
must find nothing. Geofences are always in turn. -/
def InTurn (world : RequestWorld) : RequestInput → Prop
  | .answer adapter _ => ∀ command, world.next adapter = some command →
    ∀ session, command.call.responseSession = some session →
      match command.request with
      | some (type, request) =>
        (world.outstanding type).head? = some request ∧ Leads world session type
      | none => Unclaimed world session ∧
        (world.client.mSessionBiDict.hasSession session = true → world.outstanding .session = [])
  | _ => True

section History
variable {made : List (RequestType × LocationAPIRequest)} {type other : RequestType}
  {request : LocationAPIRequest}

private theorem since_append (made : List (RequestType × LocationAPIRequest)) (type : RequestType)
    (entry : RequestType × LocationAPIRequest) :
    since (made ++ [entry]) type =
      if entry.1 = type then
        if type.restarts entry.2.kind then [entry.2] else since made type ++ [entry.2]
      else since made type := by
  simp only [since, List.foldl_append, List.foldl_cons, List.foldl_nil]

private theorem since_sublist (made : List (RequestType × LocationAPIRequest))
    (type : RequestType) :
    (since made type).Sublist ((made.filter (·.1 = type)).map Prod.snd) := by
  induction made using List.reverseRecOn with
  | nil => exact List.Sublist.refl _
  | append_singleton made entry ih =>
    rw [since_append, List.filter_append, List.map_append]
    by_cases own : entry.1 = type
    · simp only [own, if_true, List.filter_cons, decide_true, List.filter_nil, List.map_cons,
        List.map_nil]
      split
      · exact List.sublist_append_right _ _
      · exact ih.append (List.Sublist.refl _)
    · simpa [own] using ih

private theorem made_of_since (kept : request ∈ since made type) : (type, request) ∈ made := by
  have member := (since_sublist made type).subset kept
  simp only [List.mem_map, List.mem_filter, decide_eq_true_eq] at member
  obtain ⟨⟨_, _⟩, ⟨member, rfl⟩, rfl⟩ := member
  exact member

/-- Requests are numbered as they are made. -/
private def Numbered (made : List (RequestType × LocationAPIRequest)) (allocated : Nat) : Prop :=
  made.map (·.2.address) = List.range allocated

private theorem Numbered.lt {allocated : Nat} (numbered : Numbered made allocated)
    (member : (type, request) ∈ made) : request.address < allocated := by
  have named : request.address ∈ made.map (·.2.address) := List.mem_map_of_mem member
  rw [numbered] at named
  exact List.mem_range.mp named

private theorem Numbered.unique {allocated : Nat} (numbered : Numbered made allocated)
    {entry entry' : RequestType × LocationAPIRequest} (member : entry ∈ made)
    (member' : entry' ∈ made) (same : entry.2.address = entry'.2.address) : entry = entry' := by
  have apart : (made.map (·.2.address)).Nodup := numbered ▸ List.nodup_range
  exact List.inj_on_of_nodup_map apart member member' same

private theorem Numbered.since_nodup {allocated : Nat} (numbered : Numbered made allocated)
    (type : RequestType) : ((since made type).map (·.address)).Nodup := by
  have apart : (made.map (·.2.address)).Nodup := numbered ▸ List.nodup_range
  have part := ((since_sublist made type).map (·.address)).nodup
  rw [List.map_map] at part
  exact part (apart.sublist ((List.filter_sublist).map _))

/-- With the first of some requests answered, the others are left. -/
private theorem filter_answered {requests rest : List LocationAPIRequest} {answered : List Nat}
    (apart : (requests.map (·.address)).Nodup)
    (waiting : requests.filter (·.address ∉ answered) = request :: rest) :
    requests.filter (·.address ∉ request.address :: answered) = rest := by
  have narrowed : requests.filter (·.address ∉ request.address :: answered) =
      (request :: rest).filter (·.address ≠ request.address) := by
    rw [← waiting, List.filter_filter]
    refine List.filter_congr fun other _ => ?_
    simp [not_or]
  have waitingApart : ((request :: rest).map (·.address)).Nodup := by
    rw [← waiting]
    exact apart.sublist ((List.filter_sublist).map _)
  rw [List.map_cons, List.nodup_cons] at waitingApart
  rw [narrowed, List.filter_cons_of_neg (by simp)]
  refine List.filter_eq_self.mpr fun other member => ?_
  have differs : other.address ≠ request.address := by
    intro same
    exact waitingApart.1 (same ▸ List.mem_map_of_mem member)
  simpa using differs

end History

/-- What every run keeps as long as its answers are in turn. Each queue holds what is
outstanding of it; the commands know their requests and, where a session is tracked or
responded to, its number; and the geofence adapter has a command for each request that
is outstanding, in the same order. -/
private structure Invariant (world : RequestWorld) : Prop where
  numbered : Numbered world.made world.client.allocated
  waiting : ∀ type, (world.client.mRequestQueues type).mQueue = world.outstanding type
  old : ∀ address ∈ world.answered, address < world.client.allocated
  known : ∀ adapter, ∀ command ∈ world.pending adapter, ∀ entry,
    command.request = some entry → entry ∈ world.made
  named : ∀ adapter, ∀ command ∈ world.pending adapter, ∀ type request,
    command.request = some (type, request) → type = .tracking ∨ type = .niResponse →
      request ∈ since world.made type →
        command.call.responseSession = some (world.client.mRequestQueues type).mSession
  closed : (world.client.mRequestQueues .geofence).mSession ≠ GEOFENCE_SESSION_ID →
    since world.made .geofence = []
  collective : ∀ adapter, ∀ command ∈ world.pending adapter,
    (command.call.responseSession = none ↔ adapter = .geofence)
  apart : ∀ adapter, adapter ≠ .geofence → ∀ command ∈ world.pending adapter, ∀ request,
    command.request ≠ some (.geofence, request)
  fences : (world.pending .geofence).map (·.request) =
    (world.outstanding .geofence).map fun request => some (.geofence, request)

private theorem start_invariant (mLocationAPI : Bool) : Invariant (.start mLocationAPI) where
  numbered := rfl
  waiting _ := rfl
  old _ member := absurd member List.not_mem_nil
  known _ _ member := absurd member List.not_mem_nil
  named _ _ member := absurd member List.not_mem_nil
  closed _ := rfl
  collective _ _ member := absurd member List.not_mem_nil
  apart _ _ _ member := absurd member List.not_mem_nil
  fences := rfl

section Keeping
variable {world : RequestWorld} {client : LocationAPIClientBase}
  {delivering : Adapter → Option (LocationAPIRequest × LocationError × Nat)}

private theorem Invariant.queued_old (held : Invariant world) (type : RequestType) :
    ∀ request ∈ (world.client.mRequestQueues type).mQueue,
      request.address < world.client.allocated := by
  intro request queued
  rw [held.waiting type] at queued
  exact held.numbered.lt (made_of_since (List.mem_of_mem_filter queued))

/-- A client with the same queues, whatever its dictionaries. -/
private theorem Invariant.with_client (held : Invariant world)
    (allocated : client.allocated = world.client.allocated)
    (queues : ∀ type, (client.mRequestQueues type).mQueue =
      (world.client.mRequestQueues type).mQueue)
    (sessions : ∀ type, type ≠ .geofence →
      (client.mRequestQueues type).mSession = (world.client.mRequestQueues type).mSession)
    (closed : (client.mRequestQueues .geofence).mSession ≠ GEOFENCE_SESSION_ID →
      (world.client.mRequestQueues .geofence).mSession ≠ GEOFENCE_SESSION_ID) :
    Invariant { world with client := client, delivering := delivering } where
  numbered := allocated ▸ held.numbered
  waiting type := (queues type).trans (held.waiting type)
  old address member := allocated ▸ held.old address member
  known := held.known
  named adapter command member type request own tracked kept := by
    have other : type ≠ .geofence := by
      rintro rfl
      simp at tracked
    rw [held.named adapter command member type request own tracked kept, sessions type other]
  closed apart := held.closed (closed apart)
  collective := held.collective
  apart := held.apart
  fences := held.fences

/-- A call that makes no request has no command either. -/
private theorem call_of_quiet {input : ClientInput} {onFlp : Bool}
    (calls : (world.client.perform input).calls = [])
    (queued : (world.client.perform input).queued world.client = none) :
    world.call input onFlp =
      { world with client := (world.client.perform input).client } := by
  have none : (world.client.perform input).commands world.client = [] := by
    simp [CallResult.commands, calls]
  simp [RequestWorld.call, none, queued]

private theorem outstanding_made {after : RequestWorld} {entry : RequestType × LocationAPIRequest}
    (made : after.made = world.made ++ [entry]) (answered : after.answered = world.answered)
    (fresh : entry.2.address ∉ world.answered) (type : RequestType) :
    after.outstanding type =
      if entry.1 = type then
        (if type.restarts entry.2.kind then [] else world.outstanding type) ++ [entry.2]
      else world.outstanding type := by
  simp only [RequestWorld.outstanding, made, answered, since_append]
  split
  · split
    · simp [fresh]
    · simp [List.filter_append, fresh]
  · rfl

section Making
variable {input : ClientInput} {onFlp : Bool} {type : RequestType} {kind : RequestKind}
  {session : Nat} {first : List ApiCall} {last : ApiCall}

private theorem call_made (held : Invariant world)
    (makes : Makes world.client (world.client.perform input) type kind session first last) :
    (world.call input onFlp).made = world.made ++ [(type, ⟨world.client.allocated, kind⟩)] := by
  simp [RequestWorld.call, makes.queued held.queued_old]

/-- A command after the call was there before, or is one of those of the call. -/
private theorem pending_of_call (held : Invariant world)
    (makes : Makes world.client (world.client.perform input) type kind session first last)
    {adapter : Adapter} {command : Command}
    (member : command ∈ (world.call input onFlp).pending adapter) :
    command ∈ world.pending adapter ∨ adapter ∈ command.call.adapters onFlp ∧
      ((∃ call ∈ first, command = ⟨call, none⟩) ∨
        command = ⟨last, some (type, ⟨world.client.allocated, kind⟩)⟩) := by
  simp only [RequestWorld.call, makes.commands (makes.queued held.queued_old), List.mem_append,
    List.mem_filter, List.mem_map, List.mem_singleton, decide_eq_true_eq] at member
  rcases member with older | ⟨⟨call, member, rfl⟩ | rfl, sent⟩
  · exact .inl older
  · exact .inr ⟨sent, .inl ⟨call, member, rfl⟩⟩
  · exact .inr ⟨sent, .inr rfl⟩

private theorem call_outstanding (held : Invariant world)
    (makes : Makes world.client (world.client.perform input) type kind session first last)
    (probe : RequestType) : (world.call input onFlp).outstanding probe =
      if type = probe then
        (if probe.restarts kind then [] else world.outstanding probe) ++
          [⟨world.client.allocated, kind⟩]
      else world.outstanding probe := by
  have fresh : world.client.allocated ∉ world.answered :=
    fun member => absurd (held.old _ member) (Nat.lt_irrefl _)
  exact outstanding_made (call_made held makes) rfl fresh probe

/-- An older request that is still in the queue was in it before the call, and the
number of the queue is the same. -/
private theorem kept_of_call (held : Invariant world)
    (makes : Makes world.client (world.client.perform input) type kind session first last)
    {probe : RequestType} {request : LocationAPIRequest}
    (older : request.address < world.client.allocated)
    (tracked : probe = .tracking ∨ probe = .niResponse)
    (kept : request ∈ since (world.call input onFlp).made probe) :
    request ∈ since world.made probe ∧
      ((world.call input onFlp).client.mRequestQueues probe).mSession =
        (world.client.mRequestQueues probe).mSession := by
  rw [call_made held makes, since_append] at kept
  by_cases same : type = probe
  · subst same
    rw [if_pos rfl] at kept
    split at kept
    · cases List.mem_singleton.mp kept
      exact absurd older (Nat.lt_irrefl _)
    · next plain =>
      rcases List.mem_append.mp kept with kept | newest
      · refine ⟨kept, ?_⟩
        rcases tracked with rfl | rfl
        · have session_eq := makes.keeps rfl (Bool.not_eq_true _ ▸ plain)
          simp [RequestWorld.call, makes.queues, session_eq]
        · exact absurd rfl plain
      · cases List.mem_singleton.mp newest
        exact absurd older (Nat.lt_irrefl _)
  · rw [if_neg same] at kept
    refine ⟨kept, ?_⟩
    simp [RequestWorld.call, makes.queues, Function.update_of_ne (Ne.symm same)]

/-- Only a call about geofences has a command for their adapter. -/
private theorem fences_of_call (held : Invariant world)
    (makes : Makes world.client (world.client.perform input) type kind session first last) :
    ((world.call input onFlp).pending .geofence).map (·.request) =
      ((world.call input onFlp).outstanding .geofence).map
        fun request => some (.geofence, request) := by
  have commands := makes.commands (makes.queued held.queued_old)
  rw [call_outstanding held makes]
  by_cases own : type = .geofence
  · subst own
    obtain ⟨_, rfl, collective⟩ := makes.fences rfl
    simp [RequestWorld.call, commands, held.fences, adapters_of_collective collective,
      RequestType.restarts]
  · have nothing : ((world.client.perform input).commands world.client).filter
        (.geofence ∈ ·.call.adapters onFlp) = [] := by
      refine List.filter_eq_nil_iff.mpr fun command member => ?_
      rw [decide_eq_true_eq, collective_iff]
      apply makes.others own
      rw [commands] at member
      rw [makes.calls]
      rcases List.mem_append.mp member with member | member
      · obtain ⟨call, present, rfl⟩ := List.mem_map.mp member
        exact List.mem_append_left _ present
      · cases List.mem_singleton.mp member
        exact List.mem_append_right _ (List.mem_singleton_self _)
    simp [RequestWorld.call, nothing, own, held.fences]

/-- A call that makes a request. What waited before is older than the new request, so
it keeps its place unless the queue is emptied. -/
private theorem call_of_makes (held : Invariant world)
    (makes : Makes world.client (world.client.perform input) type kind session first last) :
    Invariant (world.call input onFlp) := by
  have made : (world.call input onFlp).made = _ := call_made held makes
  constructor
  case numbered =>
    rw [made, Numbered, List.map_append, held.numbered]
    simp [RequestWorld.call, makes.allocated, List.range_succ]
  case waiting =>
    intro probe
    rw [call_outstanding held makes]
    by_cases own : type = probe
    · subst own
      simp [RequestWorld.call, makes.queues, held.waiting]
    · simp [RequestWorld.call, makes.queues, own, Function.update_of_ne (Ne.symm own),
        held.waiting]
  case old =>
    intro address member
    have before := held.old address member
    simp only [RequestWorld.call, makes.allocated]
    omega
  case known =>
    intro adapter command member entry own
    rw [made]
    rcases pending_of_call held makes member with older | ⟨_, ⟨call, _, rfl⟩ | rfl⟩
    · exact List.mem_append_left _ (held.known adapter command older entry own)
    · cases own
    · cases own
      exact List.mem_append_right _ (List.mem_singleton_self _)
  case named =>
    intro adapter command member probe request own tracked kept
    rcases pending_of_call held makes member with older | ⟨_, ⟨call, _, rfl⟩ | rfl⟩
    · have before := held.numbered.lt (held.known adapter command older _ own)
      obtain ⟨kept, same⟩ := kept_of_call held makes before tracked kept
      rw [same]
      exact held.named adapter command older probe request own tracked kept
    · cases own
    · cases own
      simp [RequestWorld.call, makes.queues, makes.names tracked]
  case closed =>
    intro unnumbered
    rw [made, since_append]
    by_cases own : type = .geofence
    · subst own
      refine absurd ?_ unnumbered
      simp [RequestWorld.call, makes.queues, (makes.fences rfl).1]
    · rw [if_neg own]
      apply held.closed
      simpa [RequestWorld.call, makes.queues, Function.update_of_ne (Ne.symm own)] using unnumbered
  case collective =>
    intro adapter command member
    rcases pending_of_call held makes member with older | ⟨sent, created⟩
    · exact held.collective adapter command older
    · constructor
      · intro collective
        rw [adapters_of_collective collective] at sent
        exact List.mem_singleton.mp sent
      · rintro rfl
        exact (collective_iff _ onFlp).mp sent
  case apart =>
    intro adapter other command member request own
    rcases pending_of_call held makes member with older | ⟨sent, ⟨call, _, rfl⟩ | rfl⟩
    · exact held.apart adapter other command older request own
    · cases own
    · cases own
      rw [adapters_of_collective (makes.fences rfl).2.2] at sent
      exact other (List.mem_singleton.mp sent)
  case fences => exact fences_of_call held makes

end Making

private theorem call_invariant (input : ClientInput) (onFlp : Bool) (held : Invariant world) :
    Invariant (world.call input onFlp) := by
  have empty : (world.client.mRequestQueues .geofence).mSession ≠
      GEOFENCE_SESSION_ID → (world.client.mRequestQueues .geofence).mQueue = [] := by
    intro unnumbered
    rw [held.waiting, RequestWorld.outstanding, held.closed unnumbered, List.filter_nil]
  rcases perform_effect input empty with
    ⟨calls, allocated, queues⟩ | ⟨calls, allocated, queues⟩ | ⟨_, _, _, _, _, makes⟩
  · rw [call_of_quiet calls (queued_nothing held.queued_old fun _ => by rw [queues])]
    exact held.with_client allocated (fun _ => by rw [queues]) (fun _ _ => by rw [queues])
      (fun unnumbered => queues ▸ unnumbered)
  · have same (type : RequestType) : ((world.client.perform input).client.mRequestQueues
        type).mQueue = (world.client.mRequestQueues type).mQueue := by
      rw [queues]
      by_cases own : type = .geofence
      · rw [own, Function.update_self]
      · rw [Function.update_of_ne own]
    rw [call_of_quiet calls (queued_nothing held.queued_old same)]
    refine held.with_client allocated same (fun type other => ?_) (fun unnumbered => ?_)
    · rw [queues, Function.update_of_ne other]
    · rw [queues, Function.update_self] at unnumbered
      exact absurd rfl unnumbered
  · exact call_of_makes held makes

private theorem finish_invariant (adapter : Adapter) (held : Invariant world) :
    Invariant (world.finish adapter) := by
  unfold RequestWorld.finish
  split
  · exact held
  · next request error session _ =>
    have rest := onResponse_rest world.client request error session
    exact held.with_client rest.2 (fun _ => by rw [rest.1]) (fun _ _ => by rw [rest.1])
      (fun unnumbered => rest.1 ▸ unnumbered)

private theorem advance_self (world : RequestWorld) (adapter : Adapter) :
    (world.advance adapter).pending adapter = (world.pending adapter).tail :=
  Function.update_self ..

private theorem advance_other {adapter probe : Adapter} (other : probe ≠ adapter) :
    (world.advance adapter).pending probe = world.pending probe :=
  Function.update_of_ne other _ _

private theorem pending_of_advance {adapter probe : Adapter} {command : Command}
    (member : command ∈ (world.advance adapter).pending probe) : command ∈ world.pending probe := by
  by_cases own : probe = adapter
  · subst own
    rw [advance_self] at member
    exact List.mem_of_mem_tail member
  · rwa [advance_other own] at member

private theorem advance_invariant {adapter : Adapter} (other : .geofence ≠ adapter)
    (held : Invariant world) : Invariant (world.advance adapter) :=
  { held with
    known := fun probe command member => held.known probe command (pending_of_advance member)
    named := fun probe command member => held.named probe command (pending_of_advance member)
    collective := fun probe command member =>
      held.collective probe command (pending_of_advance member)
    apart := fun probe differs command member =>
      held.apart probe differs command (pending_of_advance member)
    fences := by
      rw [advance_other other]
      exact held.fences }

private theorem passOver_invariant (adapter : Adapter) (held : Invariant world) :
    Invariant (world.passOver adapter) := by
  unfold RequestWorld.passOver
  split
  · exact held
  · next passed => exact advance_invariant (fun same => passed (.inl same.symm)) held

/-- The request that a response reaches is the oldest of the queue it comes from. -/
private theorem receive_found (held : Invariant world) {command : Command} {session : Nat}
    (responds : command.call.responseSession = some session) :
    (world.receive command).2 =
      (world.client.answeringQueue session).bind fun type => (world.outstanding type).head? := by
  simp only [RequestWorld.receive, responds, getRequestBySession_pops]
  cases world.client.answeringQueue session with
  | none => rfl
  | some type =>
    simp only [Option.elim_some, Option.bind_some]
    rw [pop_request, held.waiting]

private theorem type_of_outstanding (held : Invariant world) {adapter : Adapter}
    {command : Command} (member : command ∈ world.pending adapter) {type other : RequestType}
    {request : LocationAPIRequest} (own : command.request = some (type, request))
    (waiting : (world.outstanding other).head? = some request) : other = type := by
  have kept := List.mem_of_mem_filter (List.mem_of_head? waiting)
  have known := held.known adapter command member _ own
  have same := held.numbered.unique (made_of_since kept) known rfl
  exact congrArg Prod.fst same

private theorem answeringQueue_none_iff (held : Invariant world) (session : Nat) :
    world.client.answeringQueue session = none ↔ Unclaimed world session ∧
      (world.client.mSessionBiDict.hasSession session = true →
        world.outstanding .session = []) := by
  simp only [answeringQueue, held.waiting, Unclaimed]
  by_cases tracks : (world.client.mRequestQueues .tracking).mSession = session
  · by_cases empty : world.outstanding .tracking = [] <;> simp [tracks, empty]
  · by_cases responds : (world.client.mRequestQueues .niResponse).mSession = session
    · by_cases empty : world.outstanding .niResponse = [] <;> simp [tracks, responds, empty]
    · simp [tracks, responds]

/-- A queue with requests, and the number of the session if it compares numbers, is the
one that answers exactly if the number leads to it. -/
private theorem answeringQueue_some_iff (held : Invariant world) {type : RequestType}
    {session : Nat} (other : type ≠ .geofence) (waiting : world.outstanding type ≠ [])
    (named : type = .tracking ∨ type = .niResponse →
      (world.client.mRequestQueues type).mSession = session) :
    world.client.answeringQueue session = some type ↔ Leads world session type := by
  simp only [answeringQueue, held.waiting]
  cases type with
  | tracking => simp [Leads, waiting, named (.inl rfl)]
  | geofence => exact absurd rfl other
  | niResponse =>
    have responds := named (.inr rfl)
    by_cases tracks : (world.client.mRequestQueues .tracking).mSession = session
    · by_cases empty : world.outstanding .tracking = [] <;> simp [Leads, tracks, empty]
    · simp [Leads, tracks, responds, waiting]
  | session =>
    by_cases tracks : (world.client.mRequestQueues .tracking).mSession = session
    · by_cases empty : world.outstanding .tracking = [] <;>
        simp [Leads, Unclaimed, tracks, empty, waiting]
    · by_cases responds : (world.client.mRequestQueues .niResponse).mSession = session
      · by_cases empty : world.outstanding .niResponse = [] <;>
          simp [Leads, Unclaimed, tracks, responds, empty, waiting]
      · simp [Leads, Unclaimed, tracks, responds, waiting]

/-- A response finds the request of its command exactly if that is the oldest of the
queue that answers. -/
private theorem found_iff (held : Invariant world) {adapter : Adapter} {command : Command}
    (member : command ∈ world.pending adapter) {session : Nat}
    (responds : command.call.responseSession = some session) {type : RequestType}
    {request : LocationAPIRequest} (own : command.request = some (type, request)) :
    (world.receive command).2 = some request ↔
      (world.outstanding type).head? = some request ∧
        world.client.answeringQueue session = some type := by
  rw [receive_found held responds]
  constructor
  · intro found
    obtain ⟨other, origin, waiting⟩ := Option.bind_eq_some_iff.mp found
    cases type_of_outstanding held member own waiting
    exact ⟨waiting, origin⟩
  · rintro ⟨waiting, origin⟩
    rw [origin, Option.bind_some, waiting]

private theorem nothing_found_iff (held : Invariant world) {command : Command} {session : Nat}
    (responds : command.call.responseSession = some session) :
    (world.receive command).2 = none ↔ world.client.answeringQueue session = none := by
  rw [receive_found held responds]
  constructor
  · intro nothing
    cases origin : world.client.answeringQueue session with
    | none => rfl
    | some type =>
      have waiting := answeringQueue_waits origin
      rw [held.waiting] at waiting
      rw [origin, Option.bind_some, List.head?_eq_none_iff] at nothing
      exact absurd nothing waiting
  · intro nothing
    rw [nothing, Option.bind_none]

private theorem mem_of_next {adapter : Adapter} {command : Command}
    (next : world.next adapter = some command) :
    ∃ rest, world.pending adapter = command :: rest := by
  unfold RequestWorld.next at next
  split at next
  · cases next
  · exact List.head?_eq_some_iff.mp next

/-- The geofence adapter answers the oldest request about geofences. -/
private theorem collective_found (held : Invariant world) {command : Command}
    (next : world.next .geofence = some command) :
    world.receive command = world.client.pop .geofence ∧ ∃ request,
      command.request = some (.geofence, request) ∧
        (world.outstanding .geofence).head? = some request := by
  obtain ⟨rest, pending⟩ := mem_of_next next
  have collective := (held.collective .geofence command
    (pending ▸ List.mem_cons_self)).mpr rfl
  have fences := held.fences
  rw [pending, List.map_cons] at fences
  obtain ⟨request, waiting, outstanding, own, _⟩ := List.map_eq_cons_iff.mp fences.symm
  have numbered : (world.client.mRequestQueues .geofence).mSession =
      GEOFENCE_SESSION_ID := by
    by_contra unnumbered
    rw [RequestWorld.outstanding, held.closed unnumbered, List.filter_nil] at outstanding
    cases outstanding
  refine ⟨?_, request, own.symm, by rw [outstanding, List.head?_cons]⟩
  simp only [RequestWorld.receive, collective, onCollectiveResponseCb,
    if_pos numbered]

private theorem matched_iff_in_turn (held : Invariant world) {adapter : Adapter}
    {command : Command} (next : world.next adapter = some command) :
    (world.receive command).2 = command.request.map Prod.snd ↔
      ∀ session, command.call.responseSession = some session →
        match command.request with
        | some (type, request) =>
          (world.outstanding type).head? = some request ∧ Leads world session type
        | none => Unclaimed world session ∧
          (world.client.mSessionBiDict.hasSession session = true →
            world.outstanding .session = []) := by
  obtain ⟨rest, pending⟩ := mem_of_next next
  have member : command ∈ world.pending adapter := pending ▸ List.mem_cons_self
  have collective := held.collective adapter command member
  cases responds : command.call.responseSession with
  | none =>
    cases collective.mp responds
    obtain ⟨received, request, own, waiting⟩ := collective_found held next
    refine iff_of_true ?_ nofun
    rw [received, pop_request, held.waiting, waiting, own]
    rfl
  | some session =>
    have other : adapter ≠ .geofence := by
      intro same
      rw [collective.mpr same] at responds
      cases responds
    simp only [Option.some.injEq, forall_eq']
    cases own : command.request with
    | none => exact (nothing_found_iff held responds).trans (answeringQueue_none_iff held session)
    | some entry =>
      obtain ⟨type, request⟩ := entry
      refine (found_iff held member responds own).trans (and_congr_right fun waiting => ?_)
      have kept := List.mem_of_mem_filter (List.mem_of_head? waiting)
      refine answeringQueue_some_iff held ?_ ?_ fun tracked => ?_
      · rintro rfl
        exact held.apart adapter other command member request own
      · intro empty
        rw [empty] at waiting
        cases waiting
      · have named := held.named adapter command member type request own tracked kept
        rw [responds] at named
        exact (Option.some.inj named).symm

/-- What a response that reaches the request of its command does to the queues. -/
private theorem received_of_matched (held : Invariant world) {adapter : Adapter}
    {command : Command} (next : world.next adapter = some command)
    (matched : (world.receive command).2 = command.request.map Prod.snd) :
    match command.request with
    | some (type, request) => (world.receive command).1 = (world.client.pop type).1 ∧
        (world.outstanding type).head? = some request
    | none => (world.receive command).1 = world.client ∧ .geofence ≠ adapter := by
  obtain ⟨rest, pending⟩ := mem_of_next next
  have member : command ∈ world.pending adapter := pending ▸ List.mem_cons_self
  have collective := held.collective adapter command member
  cases responds : command.call.responseSession with
  | none =>
    cases collective.mp responds
    obtain ⟨received, request, own, waiting⟩ := collective_found held next
    simp only [own]
    exact ⟨by rw [received], waiting⟩
  | some session =>
    have pops : world.receive command =
        (world.client.answeringQueue session).elim (world.client, none) world.client.pop := by
      simp only [RequestWorld.receive, responds, getRequestBySession_pops]
    cases own : command.request with
    | none =>
      rw [own] at matched
      refine ⟨by rw [pops, (nothing_found_iff held responds).mp matched]; rfl, ?_⟩
      intro same
      rw [collective.mpr same.symm] at responds
      cases responds
    | some entry =>
      obtain ⟨type, request⟩ := entry
      rw [own] at matched
      obtain ⟨waiting, origin⟩ := (found_iff held member responds own).mp matched
      exact ⟨by rw [pops, origin]; rfl, waiting⟩

/-- The answered request leaves its queue and what is outstanding at once. -/
private theorem outstanding_answered (held : Invariant world) {after : RequestWorld}
    {entry : RequestType × LocationAPIRequest} (member : entry ∈ world.made)
    (waiting : (world.outstanding entry.1).head? = some entry.2) (made : after.made = world.made)
    (answered : after.answered = entry.2.address :: world.answered) (type : RequestType) :
    after.outstanding type =
      if type = entry.1 then (world.outstanding type).tail else world.outstanding type := by
  simp only [RequestWorld.outstanding, made, answered]
  split
  · next own =>
    subst own
    obtain ⟨rest, split⟩ := List.head?_eq_some_iff.mp waiting
    rw [filter_answered (held.numbered.since_nodup _) split]
    rw [RequestWorld.outstanding] at split
    rw [split, List.tail_cons]
  · next other =>
    refine List.filter_congr fun request kept => ?_
    have differs : request.address ≠ entry.2.address := by
      intro same
      have unique := held.numbered.unique (made_of_since kept) member same
      exact other (congrArg Prod.fst unique)
    simp [differs]

/-- A request is popped for the answer to its command. -/
private theorem answered_invariant (held : Invariant world) {after : RequestWorld}
    {adapter : Adapter} {command : Command} {rest : List Command} {type : RequestType}
    {request : LocationAPIRequest} (next : world.pending adapter = command :: rest)
    (own : command.request = some (type, request))
    (waiting : (world.outstanding type).head? = some request)
    (popped : after.client = (world.client.pop type).1)
    (pending : after.pending = (world.advance adapter).pending)
    (made : after.made = world.made)
    (answered : after.answered = request.address :: world.answered) : Invariant after := by
  have member : command ∈ world.pending adapter := next ▸ List.mem_cons_self
  have known := held.known adapter command member _ own
  have queues := pop_queues world.client type
  have allocated := pop_allocated world.client type
  have outstanding := outstanding_answered held known waiting made answered
  have older {probe : Adapter} {other : Command} (member : other ∈ after.pending probe) :
      other ∈ world.pending probe := pending_of_advance (pending ▸ member)
  have sessions (probe : RequestType) : (after.client.mRequestQueues probe).mSession =
      (world.client.mRequestQueues probe).mSession := by
    rw [popped, queues]
    by_cases same : probe = type
    · rw [same, Function.update_self]
    · rw [Function.update_of_ne same]
  constructor
  case numbered =>
    rw [made, popped, allocated]
    exact held.numbered
  case waiting =>
    intro probe
    rw [outstanding probe, popped, queues]
    by_cases same : probe = type
    · rw [if_pos same, same, Function.update_self, held.waiting]
    · rw [if_neg same, Function.update_of_ne same, held.waiting]
  case old =>
    intro address member
    rw [popped, allocated]
    rw [answered] at member
    rcases List.mem_cons.mp member with rfl | member
    · exact held.numbered.lt known
    · exact held.old address member
  case known =>
    intro probe other member entry given
    rw [made]
    exact held.known probe other (older member) entry given
  case named =>
    intro probe other member kind request given tracked kept
    rw [made] at kept
    rw [sessions kind]
    exact held.named probe other (older member) kind request given tracked kept
  case closed =>
    rw [sessions, made]
    exact held.closed
  case collective => exact fun probe other member => held.collective probe other (older member)
  case apart =>
    exact fun probe differs other member => held.apart probe differs other (older member)
  case fences =>
    rw [outstanding .geofence, pending]
    by_cases same : adapter = .geofence
    · subst same
      have first := held.fences
      rw [next, List.map_cons, own] at first
      obtain ⟨oldest, others, split, same, _⟩ := List.map_eq_cons_iff.mp first.symm
      cases same
      rw [if_pos rfl, advance_self, List.map_tail, List.map_tail, held.fences]
    · have differs : RequestType.geofence ≠ type := by
        rintro rfl
        exact held.apart adapter same command member request own
      rw [if_neg differs, advance_other (Ne.symm same), held.fences]

private theorem answer_invariant {adapter : Adapter} {error : LocationError}
    (held : Invariant world) (matched : ∀ command, world.next adapter = some command →
      (world.receive command).2 = command.request.map Prod.snd) :
    Invariant (world.answer adapter error) := by
  unfold RequestWorld.answer
  cases next : world.next adapter with
  | none => exact held
  | some command =>
    have received := received_of_matched held next (matched command next)
    simp only
    cases own : command.request with
    | none =>
      rw [own] at received
      simp only [Option.toList_none, List.map_nil, List.nil_append, received.1]
      exact (advance_invariant received.2 held).with_client rfl (fun _ => rfl) (fun _ _ => rfl) id
    | some entry =>
      obtain ⟨type, request⟩ := entry
      rw [own] at received
      obtain ⟨rest, pending⟩ := mem_of_next next
      exact answered_invariant held pending own received.2 received.1 rfl rfl rfl

end Keeping

private theorem matched_iff {world : RequestWorld} (held : Invariant world) (input : RequestInput) :
    Matched world input ↔ InTurn world input := by
  cases input with
  | answer adapter error =>
    exact forall_congr' fun command => forall_congr' fun next => matched_iff_in_turn held next
  | call | finish | passOver => exact Iff.rfl

private theorem step_invariant {world : RequestWorld} (input : RequestInput)
    (held : Invariant world) (turn : InTurn world input) : Invariant (world.step input) := by
  cases input with
  | call input onFlp => exact call_invariant input onFlp held
  | answer adapter error => exact answer_invariant held ((matched_iff held _).mpr turn)
  | finish adapter => exact finish_invariant adapter held
  | passOver adapter => exact passOver_invariant adapter held

private theorem Invariant.noneLeft {world : RequestWorld} (held : Invariant world) :
    NoneLeft world := by
  intro type request queued
  rw [held.waiting type] at queued
  simpa using List.of_mem_filter queued

/-- In every run, with any calls and any order of the answers of the adapters, each
response reaches the request it belongs to and none stays behind its response exactly
if every answer is in turn. -/
theorem responses_match_iff_in_turn (mLocationAPI : Bool) (inputs : List RequestInput) :
    ((∀ world ∈ states RequestWorld.step (.start mLocationAPI) inputs, NoneLeft world) ∧
        ∀ taken ∈ steps RequestWorld.step (.start mLocationAPI) inputs,
          Matched taken.1 taken.2) ↔
      ∀ taken ∈ steps RequestWorld.step (.start mLocationAPI) inputs,
        InTurn taken.1 taken.2 := by
  have keeps (world : RequestWorld) (input : RequestInput) (held : Invariant world)
      (turn : InTurn world input) : Invariant (RequestWorld.step world input) :=
    step_invariant input held turn
  have events := events_iff_each_step keeps (fun _ input held => matched_iff held input) inputs
    (start_invariant mLocationAPI)
  constructor
  · rintro ⟨_, matched⟩
    exact events.mp matched
  · intro turns
    refine ⟨fun world visited => ?_, events.mpr turns⟩
    have held := invariant_while keeps inputs (start_invariant mLocationAPI) turns world visited
    exact held.noneLeft

/-- One session tracks and another one batches. The adapter of the second answers
first, and its response reaches the request of the first. -/
theorem batching_answer_reaches_the_tracking_request :
    ¬ ((∀ world ∈ states RequestWorld.step (.start true)
          [.call (.startSession 1 .onFix 5) false, .call (.startSession 2 .onFull 6) true,
            .answer .flp .success], NoneLeft world) ∧
        ∀ taken ∈ steps RequestWorld.step (.start true)
          [.call (.startSession 1 .onFix 5) false, .call (.startSession 2 .onFull 6) true,
            .answer .flp .success], Matched taken.1 taken.2) := by
  rintro ⟨_, matched⟩
  have last := matched _ (last_mem_steps (RequestWorld.start true)
    [RequestInput.call (.startSession 1 .onFix 5) false, .call (.startSession 2 .onFull 6) true]
    (RequestInput.answer .flp .success))
  have reached := congrArg (Option.map LocationAPIRequest.address) (last _ rfl)
  revert reached
  decide

end Msm8917Common.Location.RequestMatchingProofs
