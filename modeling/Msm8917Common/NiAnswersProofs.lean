import Msm8917Common.NiSessionsProofs

/-! Whose response an answer is. What a thread takes out of a session was written for
the request it takes out, unless a response was written after its request had gone,
or the thread of an earlier request cleared the id or the time of a later one. -/
namespace Msm8917Common.Gnss.Ni
open Runs

/-- What a run has seen so far; it only grows. -/
structure Evidence where
  now : Nat
  notified : List Notified
  given : List (UInt32 × GnssNiResponse)
  overruled : List (Nat × Nat)

def NiWorld.evidence (world : NiWorld) : Evidence :=
  ⟨world.now, world.notified, world.given, world.overruled⟩

namespace Evidence

structure Within (earlier later : Evidence) : Prop where
  now : earlier.now ≤ later.now
  notified : earlier.notified ⊆ later.notified
  given : earlier.given ⊆ later.given
  overruled : earlier.overruled ⊆ later.overruled

variable (evidence : Evidence)

/-- A client was notified of the request under this id. -/
def Named (request : Nat) (sessionId : UInt32) : Prop :=
  ∃ notice ∈ evidence.notified, notice.request = request ∧ notice.sessionId = sessionId

def Emergency (request : Nat) : Prop :=
  ∃ notice ∈ evidence.notified, notice.request = request ∧ notice.emergency = true

/-- The time-out of the request is over by some time. -/
def DueBy (request time : Nat) : Prop :=
  ∃ notice ∈ evidence.notified, notice.request = request ∧ notice.deadline ≤ time

/-- Some client gave this response for the request's own id. -/
def Gave (request : Nat) (response : GnssNiResponse) : Prop :=
  ∃ sessionId, evidence.Named request sessionId ∧ (sessionId, response) ∈ evidence.given

/-- An emergency was accepted while the request was in progress. -/
def Overruled (request : Nat) : Prop :=
  ∃ emergency, (emergency, request) ∈ evidence.overruled ∧ evidence.Emergency emergency ∧
    evidence.Gave emergency .accept

/-- An answer is the request's own. -/
def Own (response : GnssNiResponse) (request : Nat) : Prop :=
  evidence.Gave request response ∨
    response = .noResponse ∧ evidence.DueBy request evidence.now

/-- A response that may stand in the session of a request. -/
def Meant (request : Nat) (response : GnssNiResponse) : Prop :=
  evidence.Gave request response ∨ response = .ignore ∧ evidence.Overruled request

end Evidence

/-- Every answer is the request's own, a request is freed unanswered for one of three
reasons: another was in progress when it came, an emergency was accepted, or a
client responded to ignore it. -/
structure OwnAnswers (evidence : Evidence) (world : NiWorld) : Prop where
  answered : ∀ answer ∈ world.answered, evidence.Own answer.1 answer.2
  ignored : ∀ request ∈ world.ignored,
    evidence.Gave request .ignore ∨ evidence.Overruled request
  refused : ∀ pair ∈ world.refused, ∃ sessionId, evidence.Named pair.2 sessionId

/-- A session with a request holds no response but one that was meant for it, and its
id or none. -/
structure SessionSound (evidence : Evidence) (slot : Slot) (session : NiSession) : Prop where
  empty : session.rawRequest = none → session.respRecvd = false
  meant : ∀ request ∈ session.rawRequest, session.respRecvd = true →
    evidence.Meant request session.resp
  named : ∀ request ∈ session.rawRequest,
    session.reqID = 0 ∨ evidence.Named request session.reqID
  known : ∀ request ∈ session.rawRequest, ∃ sessionId, evidence.Named request sessionId
  emergency : ∀ request ∈ session.rawRequest, slot = .sessionEs → evidence.Emergency request

/-- A thread does not give up before its request's time, and sends its own answer. -/
def StageSound (evidence : Evidence) (session : NiSession) : Stage → Prop
  | .locking => ∀ request ∈ session.rawRequest,
    evidence.DueBy request (evidence.now + session.respTimeLeft.toNat)
  | .waiting expire => ∀ request ∈ session.rawRequest, evidence.DueBy request expire
  | .clearingTime answer | .clearingId answer | .sending answer =>
    ∀ sent ∈ answer, evidence.Own sent.1 sent.2
  | .finished => True

def MsgSound (evidence : Evidence) : NiMsg → Prop
  | .reportNiNotify _ _ => True
  | .clientResponse _ sessionId response => (sessionId, response) ∈ evidence.given
  | .informNiResponse response payload => evidence.Own response payload

def TaskSound (evidence : Evidence) : Task → Prop
  | .idle => True
  | .missedEs sessionId response => (sessionId, response) ∈ evidence.given
  | .acceptedEs sessionId seenEs => evidence.Emergency seenEs ∧
    evidence.Named seenEs sessionId ∧ (sessionId, .accept) ∈ evidence.given
  | .ignoring sessionId seenEs seen => (seenEs, seen) ∈ evidence.overruled ∧
    evidence.Emergency seenEs ∧ evidence.Named seenEs sessionId ∧
      (sessionId, .accept) ∈ evidence.given
  | .responding _ sessionId response seen =>
    evidence.Named seen sessionId ∧ (sessionId, response) ∈ evidence.given

structure Sound (evidence : Evidence) (world : NiWorld) : Prop where
  own : OwnAnswers evidence world
  sessions : ∀ slot, SessionSound evidence slot (world.niData slot)
  threads : ∀ worker ∈ world.workers,
    StageSound evidence (world.niData worker.slot) worker.stage
  msgs : ∀ msg ∈ world.queue, MsgSound evidence msg
  task : TaskSound evidence world.task

section Growth
variable {earlier later : Evidence} {request time : Nat} {response : GnssNiResponse}

theorem Evidence.Named.mono (within : earlier.Within later) {sessionId : UInt32}
    (named : earlier.Named request sessionId) : later.Named request sessionId :=
  named.imp fun _ => And.imp_left fun member => within.notified member

theorem Evidence.Emergency.mono (within : earlier.Within later)
    (emergency : earlier.Emergency request) : later.Emergency request :=
  emergency.imp fun _ => And.imp_left fun member => within.notified member

theorem Evidence.DueBy.mono (within : earlier.Within later) {sooner : Nat} (order : sooner ≤ time)
    (due : earlier.DueBy request sooner) : later.DueBy request time := by
  obtain ⟨notice, member, same, bound⟩ := due
  exact ⟨notice, within.notified member, same, Nat.le_trans bound order⟩

theorem Evidence.Gave.mono (within : earlier.Within later) (gave : earlier.Gave request response) :
    later.Gave request response :=
  gave.imp fun _ => And.imp (Evidence.Named.mono within) fun member => within.given member

theorem Evidence.Overruled.mono (within : earlier.Within later)
    (overruled : earlier.Overruled request) : later.Overruled request :=
  overruled.imp fun _ => And.imp (fun member => within.overruled member)
    (And.imp (Evidence.Emergency.mono within) (Evidence.Gave.mono within))

theorem Evidence.Own.mono (within : earlier.Within later) (own : earlier.Own response request) :
    later.Own response request :=
  own.imp (Evidence.Gave.mono within)
    (And.imp_right (Evidence.DueBy.mono within within.now))

theorem Evidence.Meant.mono (within : earlier.Within later)
    (meant : earlier.Meant request response) : later.Meant request response :=
  meant.imp (Evidence.Gave.mono within) (And.imp_right (Evidence.Overruled.mono within))

theorem SessionSound.mono (within : earlier.Within later) {slot : Slot} {session : NiSession}
    (sound : SessionSound earlier slot session) : SessionSound later slot session where
  empty := sound.empty
  meant := fun request held recvd => (sound.meant request held recvd).mono within
  named := fun request held => (sound.named request held).imp_right (Evidence.Named.mono within)
  known := fun request held => (sound.known request held).imp fun _ => Evidence.Named.mono within
  emergency := fun request held es => (sound.emergency request held es).mono within

theorem StageSound.mono (within : earlier.Within later) {session : NiSession} {stage : Stage}
    (sound : StageSound earlier session stage) : StageSound later session stage := by
  cases stage with
  | locking =>
    exact fun request held => (sound request held).mono within
      (Nat.add_le_add_right within.now _)
  | waiting expire => exact fun request held => (sound request held).mono within (Nat.le_refl _)
  | clearingTime answer => exact fun sent member => (sound sent member).mono within
  | clearingId answer => exact fun sent member => (sound sent member).mono within
  | sending answer => exact fun sent member => (sound sent member).mono within
  | finished => trivial

theorem MsgSound.mono (within : earlier.Within later) {msg : NiMsg}
    (sound : MsgSound earlier msg) : MsgSound later msg := by
  cases msg with
  | reportNiNotify notify data => trivial
  | clientResponse client sessionId response => exact within.given sound
  | informNiResponse response payload => exact Evidence.Own.mono within sound

theorem TaskSound.mono (within : earlier.Within later) {task : Task}
    (sound : TaskSound earlier task) : TaskSound later task := by
  cases task with
  | idle => trivial
  | missedEs sessionId response => exact within.given sound
  | acceptedEs sessionId seenEs =>
    exact ⟨sound.1.mono within, sound.2.1.mono within, within.given sound.2.2⟩
  | ignoring sessionId seenEs seen =>
    exact ⟨within.overruled sound.1, sound.2.1.mono within, sound.2.2.1.mono within,
      within.given sound.2.2.2⟩
  | responding slot sessionId response seen =>
    exact ⟨sound.1.mono within, within.given sound.2⟩

/-- Nothing that was shown is lost when the evidence grows. -/
theorem Sound.mono (within : earlier.Within later) {world : NiWorld}
    (sound : Sound earlier world) : Sound later world where
  own := {
    answered := fun answer member => (sound.own.answered answer member).mono within
    ignored := fun request member => (sound.own.ignored request member).imp
      (Evidence.Gave.mono within) (Evidence.Overruled.mono within)
    refused := fun pair member => (sound.own.refused pair member).imp
      fun _ => Evidence.Named.mono within }
  sessions := fun slot => (sound.sessions slot).mono within
  threads := fun worker member => (sound.threads worker member).mono within
  msgs := fun msg member => (sound.msgs msg member).mono within
  task := sound.task.mono within

end Growth

/-- An id that a session answers to is that of its request, also if it is the id 0
that the thread of an earlier request left there. -/
def OwnId (world : NiWorld) (slot : Slot) (sessionId : UInt32) : Prop :=
  sessionId = 0 → ∀ request ∈ world.matched slot sessionId,
    world.evidence.Named request sessionId

/-- What a step must meet. A check finds no request under a cleared id; a response is
written into a session that still holds the request that the check saw; and no
thread clears the time of a session whose next thread has still to read it. -/
def Undisturbed (world : NiWorld) : NiInput → Prop
  | .task hasNiNotifyCallback =>
    match world.task with
    | .idle =>
      match world.queue with
      | .clientResponse _ sessionId _ :: _ =>
        hasNiNotifyCallback = true → OwnId world .sessionEs sessionId
      | _ => True
    | .missedEs sessionId _ => OwnId world .session sessionId
    | .acceptedEs _ _ => True
    | .ignoring _ _ seen => (world.niData .session).rawRequest = some seen
    | .responding slot _ _ seen => (world.niData slot).rawRequest = some seen
  | .thread index =>
    match world.workers[index]? with
    | some ⟨slot, .clearingTime _⟩ =>
      ∀ worker ∈ world.workers, worker.slot = slot → worker.stage ≠ .locking
    | _ => True
  | .requestNiNotifyEvent _ | .gnssNiResponseCommand _ _ _ | .tick _ | .timeOut _ => True

instance (world : NiWorld) (slot : Slot) (sessionId : UInt32) :
    Decidable (OwnId world slot sessionId) :=
  inferInstanceAs (Decidable (sessionId = 0 → ∀ request ∈ world.matched slot sessionId,
    ∃ notice ∈ world.notified, notice.request = request ∧ notice.sessionId = sessionId))

instance (world : NiWorld) : DecidablePred (Undisturbed world) := fun input => by
  unfold Undisturbed
  repeat' split
  all_goals infer_instance

section Updates
variable {evidence : Evidence} {world : NiWorld} {slot : Slot} {session : NiSession}

/-- Nothing is asked of a session without a request and a response. -/
theorem SessionSound.of_empty (free : session.rawRequest = none)
    (recvd : session.respRecvd = false) : SessionSound evidence slot session := by
  constructor <;> simp [free, recvd]

theorem start_sound : Sound NiWorld.start.evidence .start where
  own := by constructor <;> simp [NiWorld.start]
  sessions := fun slot => .of_empty rfl rfl
  threads := fun worker member => absurd member List.not_mem_nil
  msgs := fun msg member => absurd member List.not_mem_nil
  task := trivial

/-- The last write into a session is the one that stays. -/
theorem save_save (world : NiWorld) (slot : Slot) (first last : NiSession) :
    (world.save slot first).save slot last = world.save slot last := by
  simp only [NiWorld.save, Function.update_idem]

/-- A session changes, and its threads stay sound with what they find there. -/
theorem Sound.save (sound : Sound evidence world) (new : SessionSound evidence slot session)
    (threads : ∀ worker ∈ world.workers, worker.slot = slot →
      StageSound evidence session worker.stage) : Sound evidence (world.save slot session) where
  __ := sound
  own := { sound.own with }
  sessions := by
    intro other
    by_cases same : other = slot
    · subst same
      rw [save_self]
      exact new
    · rw [save_other _ _ same]
      exact sound.sessions other
  threads := by
    intro worker member
    by_cases same : worker.slot = slot
    · rw [same, save_self]
      exact threads worker member same
    · rw [save_other _ _ same]
      exact sound.threads worker member

/-- What a session holds concerns a thread that has still to lock it, and the time left
one that has still to read it. -/
theorem StageSound.into {old new : NiSession} {stage : Stage}
    (sound : StageSound evidence old stage)
    (same : stage.before = true → ∀ request ∈ new.rawRequest,
      request ∈ old.rawRequest ∧ (stage = .locking → new.respTimeLeft = old.respTimeLeft)) :
    StageSound evidence new stage := by
  cases stage with
  | locking =>
    intro request held
    obtain ⟨before, time⟩ := same rfl request held
    rw [time rfl]
    exact sound request before
  | waiting expire => exact fun request held => sound request (same rfl request held).1
  | clearingTime answer => exact sound
  | clearingId answer => exact sound
  | sending answer => exact sound
  | finished => trivial

theorem Sound.goTo (sound : Sound evidence world) (stage : Stage) (index : Nat)
    (new : StageSound evidence (world.niData slot) stage) :
    Sound evidence (world.goTo index ⟨slot, stage⟩) where
  __ := sound
  own := { sound.own with }
  threads := by
    intro worker member
    rcases List.mem_or_eq_of_mem_set member with old | rfl
    · exact sound.threads worker old
    · exact new

theorem Sound.free (sound : Sound evidence world) {requests : List Nat}
    (rightly : ∀ request ∈ requests,
      evidence.Gave request .ignore ∨ evidence.Overruled request) :
    Sound evidence (world.free requests) where
  __ := sound
  own := { sound.own with
    ignored := by
      intro request member
      rcases List.mem_append.mp member with new | old
      · exact rightly request new
      · exact sound.own.ignored request old }

theorem Sound.sendMsg (sound : Sound evidence world) {msg : NiMsg}
    (new : MsgSound evidence msg) : Sound evidence (world.sendMsg msg) where
  __ := sound
  own := { sound.own with }
  msgs := by
    intro other member
    rcases List.mem_append.mp member with old | last
    · exact sound.msgs other old
    · cases List.mem_singleton.mp last
      exact new

theorem Sound.popped (sound : Sound evidence world) {msg : NiMsg} {rest : List NiMsg}
    (waiting : world.queue = msg :: rest) :
    MsgSound evidence msg ∧ Sound evidence { world with queue := rest } := by
  have msgs := sound.msgs
  rw [waiting, List.forall_mem_cons] at msgs
  exact ⟨msgs.1, { sound with own := { sound.own with }, msgs := msgs.2 }⟩

theorem Sound.atTask (sound : Sound evidence world) {task : Task}
    (new : TaskSound evidence task) : Sound evidence { world with task := task } where
  __ := sound
  own := { sound.own with }
  task := new

/-- A response is written into a session that holds the request it is for. -/
theorem Sound.respond (sound : Sound evidence world) {response : GnssNiResponse} {seen : Nat}
    (held : (world.niData slot).rawRequest = some seen) (meant : evidence.Meant seen response) :
    Sound evidence (world.respond slot response) := by
  have before := sound.sessions slot
  refine sound.save ?_ fun worker member same => ?_
  · refine ⟨fun empty => ?_, fun request there _ => ?_, before.named, before.known,
      before.emergency⟩
    · exact absurd (held.symm.trans empty) (by simp)
    · cases Option.mem_unique there held
      exact meant
  · have thread := sound.threads worker member
    rw [same] at thread
    exact thread.into fun _ _ held => ⟨held, fun _ => rfl⟩

/-- A thread takes out what the session holds, with a response that may stand there. -/
theorem Sound.taken (sound : Sound evidence world) (slot : Slot) (session : NiSession) (index : Nat)
    (answers : ∀ request ∈ session.rawRequest, session.resp ≠ .ignore →
      evidence.Own session.resp request)
    (frees : ∀ request ∈ session.rawRequest, session.resp = .ignore →
      evidence.Gave request .ignore ∨ evidence.Overruled request) :
    Sound evidence (((world.save slot { session with respRecvd := false, rawRequest := none }).goTo
      index ⟨slot, .clearingTime session.answer⟩).free session.freed) := by
  have emptied : SessionSound evidence slot
      { session with respRecvd := false, rawRequest := none } := .of_empty rfl rfl
  have saved : Sound evidence
      (world.save slot { session with respRecvd := false, rawRequest := none }) :=
    sound.save emptied fun worker member _ =>
      (sound.threads worker member).into fun _ _ held => by cases held
  refine (saved.goTo _ index ?_).free ?_
  · intro sent member
    obtain ⟨request, held, answer⟩ := Option.bind_eq_some_iff.mp member
    split at answer
    · next answered =>
      cases answer
      exact answers request held answered
    · cases answer
  · intro request member
    unfold NiSession.freed at member
    split at member
    · cases member
    · next ignored =>
      exact frees request (Option.mem_toList.mp member) (by simpa using ignored)

end Updates

section Steps
variable {world : NiWorld}

theorem chosen_held {type : GnssNiType} {request : Nat}
    (chosen : world.chosen type = .inr request) :
    ∃ slot, (world.niData slot).rawRequest = some request := by
  unfold NiWorld.chosen at chosen
  split at chosen
  · split at chosen
    · next held =>
      cases chosen
      exact ⟨.sessionEs, held⟩
    · cases chosen
  · split at chosen
    · next held =>
      cases chosen
      exact ⟨.session, held⟩
    · next held =>
      cases chosen
      exact ⟨.sessionEs, held⟩
    · cases chosen

theorem emergency_of_chosen {type : GnssNiType} (chosen : world.chosen type = .inl .sessionEs) :
    type = .emergencySupl := by
  unfold NiWorld.chosen at chosen
  split at chosen
  · next emergency => exact emergency
  · split at chosen <;> cases chosen

/-- A session without a request has no thread in front of it. -/
theorem not_before {slot : Slot} (manned : ∀ slot, world.waiters slot =
      if (world.niData slot).rawRequest.isSome then 1 else 0)
    (free : (world.niData slot).rawRequest = none) {worker : Worker}
    (member : worker ∈ world.workers) (same : worker.slot = slot) :
    worker.stage.before = false := by
  have none_waits := manned slot
  simp only [free, Option.isSome_none, Bool.false_eq_true, if_false] at none_waits
  have passed := List.countP_eq_zero.mp none_waits worker member
  simpa [Worker.waitsAt, same] using passed

theorem requestNiNotify_sound (sound : Sound world.evidence world)
    (manned : ∀ slot, world.waiters slot = if (world.niData slot).rawRequest.isSome then 1 else 0)
    (notify : GnssNiNotification) (data : Nat) :
    Sound (world.requestNiNotify notify data).evidence (world.requestNiNotify notify data) := by
  unfold NiWorld.requestNiNotify
  cases chosen : world.chosen notify.type with
  | inr other =>
    obtain ⟨slot, held⟩ := chosen_held chosen
    have known := (sound.sessions slot).known other held
    refine { sound with own := { sound.own with refused := ?_ } }
    intro pair member
    rcases List.mem_cons.mp member with rfl | old
    · exact known
    · exact sound.own.refused pair old
  | inl slot =>
    have free := chosen_free chosen
    simp only
    generalize isTime : (5 + if notify.timeout ≠ 0 then notify.timeout else locNiNoResponseTime :
      UInt32) = respTimeLeft
    let notice : Notified := ⟨world.reqIDCounter + 1, data, notify.type = .emergencySupl,
      world.now + respTimeLeft.toNat⟩
    let later : Evidence := { world.evidence with notified := notice :: world.notified }
    have within : world.evidence.Within later :=
      ⟨Nat.le_refl _, List.subset_cons_self _ _, fun _ member => member, fun _ member => member⟩
    have noticed : notice ∈ later.notified := List.mem_cons_self
    have named : later.Named data (world.reqIDCounter + 1) := ⟨notice, noticed, rfl, rfl⟩
    let session : NiSession := { world.niData slot with
      rawRequest := some data
      reqID := world.reqIDCounter + 1
      respTimeLeft := respTimeLeft }
    have new : SessionSound later slot session := by
      have unanswered := (sound.sessions slot).empty free
      refine ⟨fun empty => absurd empty (by simp [session]), fun _ _ recvd => ?_, ?_, ?_, ?_⟩
      · exact absurd (unanswered.symm.trans recvd) (by decide)
      · rintro _ ⟨⟩
        exact .inr named
      · rintro _ ⟨⟩
        exact ⟨_, named⟩
      · rintro _ ⟨⟩ rfl
        exact ⟨notice, noticed, rfl, decide_eq_true (emergency_of_chosen chosen)⟩
    have saved := (sound.mono within).save new fun worker member same =>
      ((sound.mono within).threads worker member).into fun before =>
        absurd ((not_before manned free member same).symm.trans before) (by decide)
    have started : StageSound later ((world.save slot session).niData slot) .locking := by
      rw [save_self]
      rintro _ ⟨⟩
      exact ⟨notice, noticed, rfl, Nat.le_refl _⟩
    refine { saved with own := { saved.own with }, threads := ?_ }
    intro worker member
    rcases List.mem_append.mp member with old | last
    · exact saved.threads worker old
    · cases List.mem_singleton.mp last
      exact started

/-- A request that a check finds under an id was announced under it. -/
theorem Sound.named_of_matched (sound : Sound world.evidence world) {slot : Slot}
    {sessionId : UInt32} (ownId : OwnId world slot sessionId) {request : Nat}
    (found : world.matched slot sessionId = some request) :
    (world.niData slot).rawRequest = some request ∧
      world.evidence.Named request sessionId := by
  have both := found
  unfold NiWorld.matched at both
  split at both
  · next same =>
    refine ⟨both, ?_⟩
    rcases (sound.sessions slot).named request both with cleared | named
    · exact ownId (same.trans cleared) request found
    · rw [same]
      exact named
  · cases both

/-- A message is processed, up to its first check. The id that a client gave is found
in no session but that of the request it belongs to. -/
theorem process_sound (world : NiWorld) (sound : Sound world.evidence world)
    (manned : ∀ slot, world.waiters slot = if (world.niData slot).rawRequest.isSome then 1 else 0)
    (hasNiNotifyCallback : Bool) {msg : NiMsg} (first : MsgSound world.evidence msg)
    (ownId : ∀ client sessionId response, msg = .clientResponse client sessionId response →
      hasNiNotifyCallback = true → OwnId world .sessionEs sessionId) :
    Sound (world.process hasNiNotifyCallback msg).evidence
      (world.process hasNiNotifyCallback msg) := by
  cases msg with
  | reportNiNotify notify data => exact requestNiNotify_sound sound manned notify data
  | informNiResponse response payload =>
    have own : OwnAnswers world.evidence (world.process hasNiNotifyCallback
        (.informNiResponse response payload)) :=
      { sound.own with answered := List.forall_mem_cons.mpr ⟨first, sound.own.answered⟩ }
    exact { sound with own := own }
  | clientResponse client sessionId response =>
    simp only [NiWorld.process]
    split
    · exact sound
    · next registered =>
      have ownId := ownId client sessionId response rfl (by simpa using registered)
      split
      · exact sound.atTask first
      · next seenEs found =>
        obtain ⟨held, named⟩ := sound.named_of_matched ownId found
        apply sound.atTask
        split
        · next accepts =>
          exact ⟨(sound.sessions .sessionEs).emergency seenEs held rfl, named, accepts ▸ first⟩
        · exact ⟨named, first⟩

theorem runTask_sound (sound : Sound world.evidence world) (accounted : Accounted world)
    {hasNiNotifyCallback : Bool} (undisturbed : Undisturbed world (.task hasNiNotifyCallback)) :
    Sound (world.runTask hasNiNotifyCallback).evidence (world.runTask hasNiNotifyCallback) := by
  have task := sound.task
  unfold NiWorld.runTask
  unfold Undisturbed at undisturbed
  split
  · next isTask =>
    split
    · exact sound
    · next msg rest waiting =>
      obtain ⟨first, popped⟩ := sound.popped waiting
      simp only [isTask, waiting] at undisturbed
      refine process_sound { world with queue := rest } popped accounted.manned
        hasNiNotifyCallback first ?_
      rintro client sessionId response rfl
      exact undisturbed
  · next sessionId response isTask =>
    simp only [isTask] at undisturbed task
    apply sound.atTask
    split
    · trivial
    · next seen found => exact ⟨(sound.named_of_matched undisturbed found).2, task⟩
  · next sessionId seenEs isTask =>
    simp only [isTask] at task
    obtain ⟨emergency, named, gave⟩ := task
    split
    · exact sound.atTask ⟨named, gave⟩
    · next seen held =>
      let later : Evidence :=
        { world.evidence with overruled := (seenEs, seen) :: world.overruled }
      have within : world.evidence.Within later :=
        ⟨Nat.le_refl _, fun _ member => member, fun _ member => member, List.subset_cons_self _ _⟩
      have grown := sound.mono within
      exact { grown with
        own := { grown.own with }
        task := ⟨List.mem_cons_self, emergency, named, gave⟩ }
  · next sessionId seenEs seen isTask =>
    simp only [isTask] at undisturbed task
    obtain ⟨overruled, emergency, named, gave⟩ := task
    have meant : world.evidence.Meant seen .ignore :=
      .inr ⟨rfl, seenEs, overruled, emergency, sessionId, named, gave⟩
    exact (sound.respond undisturbed meant).atTask ⟨named, gave⟩
  · next slot sessionId response seen isTask =>
    simp only [isTask] at undisturbed task
    obtain ⟨named, gave⟩ := task
    exact (sound.respond undisturbed (.inl ⟨sessionId, named, gave⟩)).atTask trivial

/-- A response that stands in a session is taken out for its request. -/
theorem woken_sound (sound : Sound world.evidence world) (index : Nat) {slot : Slot}
    (recvd : (world.niData slot).respRecvd = true) :
    Sound world.evidence (world.take index slot) := by
  have meant := (sound.sessions slot).meant
  refine sound.taken slot (world.niData slot) index (fun request held answers => ?_)
    fun request held ignores => ?_
  · exact .inl ((meant request held recvd).resolve_right fun ignores => answers ignores.1)
  · rcases meant request held recvd with gave | ⟨-, overruled⟩
    · exact .inl (ignores ▸ gave)
    · exact .inr overruled

theorem runThread_sound (sound : Sound world.evidence world) {index : Nat}
    (undisturbed : Undisturbed world (.thread index)) :
    Sound (world.runThread index).evidence (world.runThread index) := by
  unfold NiWorld.runThread
  unfold Undisturbed at undisturbed
  cases held : world.workers[index]? with
  | none => exact sound
  | some worker =>
    obtain ⟨slot, stage⟩ := worker
    have thread := sound.threads _ (List.mem_of_getElem? held)
    have before := sound.sessions slot
    simp only [held] at undisturbed ⊢
    cases stage with
    | locking =>
      simp only
      split
      · next recvd => exact woken_sound sound index recvd
      · exact sound.goTo _ index thread
    | waiting expire =>
      simp only
      split
      · next recvd => exact woken_sound sound index recvd
      · exact sound
    | clearingTime answer =>
      have saved : Sound world.evidence
          (world.save slot { world.niData slot with respTimeLeft := 0 }) := by
        refine sound.save ⟨before.empty, before.meant, before.named, before.known,
          before.emergency⟩ fun other member same => ?_
        have stands := sound.threads other member
        rw [same] at stands
        exact stands.into fun _ _ held =>
          ⟨held, fun isLocking => absurd isLocking (undisturbed other member same)⟩
      exact saved.goTo (.clearingId answer) index thread
    | clearingId answer =>
      have saved : Sound world.evidence
          (world.save slot { world.niData slot with reqID := 0 }) := by
        refine sound.save ⟨before.empty, before.meant, fun _ _ => .inl rfl, before.known,
          before.emergency⟩ fun other member same => ?_
        have stands := sound.threads other member
        rw [same] at stands
        exact stands.into fun _ _ held => ⟨held, fun _ => rfl⟩
      exact saved.goTo (.sending answer) index thread
    | sending answer =>
      have finished : Sound world.evidence (world.goTo index ⟨slot, .finished⟩) :=
        sound.goTo .finished index trivial
      cases answer with
      | none => exact finished
      | some answer => exact finished.sendMsg (thread answer rfl)
    | finished => exact sound

/-- A thread whose wait is over answers that there was no response. -/
theorem timeOut_sound (sound : Sound world.evidence world) (index : Nat) :
    Sound (world.timeOut index).evidence (world.timeOut index) := by
  unfold NiWorld.timeOut
  split
  · next slot expire held =>
    split
    · next past =>
      have waits : ∀ request ∈ (world.niData slot).rawRequest,
          world.evidence.DueBy request expire := sound.threads _ (List.mem_of_getElem? held)
      let session : NiSession := { world.niData slot with resp := .noResponse }
      have late : ∀ request ∈ session.rawRequest, session.resp ≠ .ignore →
          world.evidence.Own session.resp request := by
        intro request there _
        obtain ⟨notice, member, same, bound⟩ := waits request there
        exact .inr ⟨rfl, notice, member, same, Nat.le_trans bound past⟩
      have taken := sound.taken slot session index late fun _ _ ignores => by cases ignores
      rw [← save_save _ _ session] at taken
      simp only [NiWorld.take, save_self]
      exact taken
    · exact sound
  · exact sound

theorem step_sound (world : NiWorld) (input : NiInput)
    (both : Accounted world ∧ Sound world.evidence world) (undisturbed : Undisturbed world input) :
    Accounted (world.step input) ∧ Sound (world.step input).evidence (world.step input) := by
  obtain ⟨accounted, sound⟩ := both
  refine ⟨step_accounted world input accounted, ?_⟩
  cases input with
  | requestNiNotifyEvent notify =>
    have noted : MsgSound world.evidence (.reportNiNotify notify world.came) := trivial
    have sent := sound.sendMsg noted
    exact { sent with own := { sent.own with } }
  | gnssNiResponseCommand client sessionId response =>
    let later : Evidence :=
      { world.evidence with given := (sessionId, response) :: world.given }
    have within : world.evidence.Within later :=
      ⟨Nat.le_refl _, fun _ member => member, List.subset_cons_self _ _, fun _ member => member⟩
    have gave : MsgSound later (.clientResponse client sessionId response) := List.mem_cons_self
    have sent := (sound.mono within).sendMsg gave
    exact { sent with own := { sent.own with } }
  | tick seconds =>
    let later : Evidence := { world.evidence with now := world.now + seconds }
    have within : world.evidence.Within later :=
      ⟨Nat.le_add_right _ _, fun _ member => member, fun _ member => member,
        fun _ member => member⟩
    have grown := sound.mono within
    exact { grown with own := { grown.own with } }
  | task hasNiNotifyCallback => exact runTask_sound sound accounted undisturbed
  | thread index => exact runThread_sound sound undisturbed
  | timeOut index => exact timeOut_sound sound index

end Steps

/-- In any run every request is done with once. -/
theorem requests_settled_once (inputs : List NiInput) :
    ∀ world ∈ states NiWorld.step .start inputs, SettledOnce world := fun world visited =>
  (invariant_states step_accounted inputs start_accounted world visited).settled

end Msm8917Common.Gnss.Ni
