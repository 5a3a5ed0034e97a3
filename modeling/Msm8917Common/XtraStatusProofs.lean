import Mathlib.Data.List.TakeWhile
import Msm8917Common.Runs
import Msm8917Common.XtraStatus

/-! The daemon's view against the observer. A message of one field is read back as
it was printed; an answer has a line for every field but the throttle, so a
throttle that was set before the first request never reaches the daemon. -/
namespace Msm8917Common.Xtra.StatusProofs
open Runs TextLines XtraSystemStatusObserver DaemonView

/-- The daemon has the current value of every field. -/
structure Faithful (world : XtraWorld) : Prop where
  gpsLock : world.view.gpsLock = some world.observer.mGpsLock
  connections : world.view.connections = some world.observer.mConnections
  tac : world.view.tac = some world.observer.mTac
  mccmnc : world.view.mccmnc = some world.observer.mMccmnc
  xtraThrottle : world.view.xtraThrottle = some world.observer.mXtraThrottle

/-- From the first request on the mirror is faithful. -/
def Mirrored (world : XtraWorld) : Prop :=
  world.observer.mReqStatusReceived = true → Faithful world

/-- A text that is sent by itself has no zero in it, one that stands on a line of an
answer has no line break; and the first request comes while the throttle is what
the daemon takes it for from the start. -/
def Readable (started : DaemonView) (observer : XtraSystemStatusObserver) : XtraInput → Prop
  | .updateTac text | .updateMccMnc text =>
    observer.mReqStatusReceived = true → '\x00' ∉ text
  | .requestStatus => '\n' ∉ observer.mTac ∧ '\n' ∉ observer.mMccmnc ∧
      (observer.mReqStatusReceived = false →
        started.xtraThrottle = some observer.mXtraThrottle)
  | _ => True

/-- Nothing was sent before the first request. -/
def Silent (started : DaemonView) (world : XtraWorld) : Prop :=
  world.observer.mReqStatusReceived = false → world.view = started

theorem c_str_eq_iff {text : Text} : c_str text = text ↔ '\x00' ∉ text := by
  simp only [c_str, List.takeWhile_eq_self_iff]
  constructor
  · intro all member
    exact absurd (all _ member) (by decide)
  · intro absent char member
    simp only [ne_eq, decide_eq_true_eq]
    rintro rfl
    exact absent member

/-- A message of one field is read as that field. -/
theorem receive_field (view : DaemonView) (name : String) {first : Char} {rest : List Char}
    (spelled : name.toList = first :: rest) (unbroken : first ≠ '\n') (other : first ≠ 'r')
    (oneWord : ' ' ∉ name.toList) (value : Text) :
    view.receive (field name value) = view.receiveField name.toList value := by
  have words : ∀ char ∈ name.toList, decide (char ≠ ' ') = true := by
    intro char member
    simp only [decide_eq_true_eq]
    rintro rfl
    exact oneWord member
  have header : (lines (field name value)).head? ≠ some statusHeader := by
    rw [field, spelled]
    obtain ⟨line, later, isLines⟩ := lines_first unbroken (rest ++ ' ' :: value)
    rw [List.cons_append, isLines]
    intro same
    exact other (List.cons.inj (Option.some.inj same)).1
  rw [receive, if_neg header, field, List.takeWhile_append_of_pos words,
    List.dropWhile_append_of_pos words]
  simp

theorem readLock_printNat (lock : UInt32) : readLock (printNat lock.toNat) = lock.toInt32 := by
  have printed : printNat lock.toNat ≠ [] := Nat.toDigits_ne_nil
  rw [readLock, if_neg printed, readInt_printNat, Int32.ofInt_eq_ofNat]
  apply Int32.toBitVec.inj
  simp

theorem readLock_printLock (lock : Int32) : readLock (printLock lock) = lock := by
  unfold printLock
  split
  · rename_i unknown
    rw [unknown]
    rfl
  · rw [readLock, if_neg (printInt_ne_nil _), readInt_printInt, Int32.ofInt_toInt]

theorem readConnections_printNat (connections : UInt64) :
    readConnections (printNat connections.toNat) = connections := by
  rw [readConnections, readNat_printNat, UInt64.ofNat_toNat]

theorem printLock_unbroken (lock : Int32) : '\n' ∉ printLock lock := by
  unfold printLock
  split
  · exact List.not_mem_nil
  · exact printInt_unbroken _

/-- What the daemon reads from an answer: the two texts up to the first line break
in either. -/
theorem receive_respondStatus (view : DaemonView) (observer : XtraSystemStatusObserver) :
    ∃ tac mccmnc rest,
      lines (observer.mTac ++ '\n' :: (observer.mMccmnc ++ '\n' ::
        printNat (if observer.mIsConnectivityStatusKnown then 1 else 0))) =
          tac :: mccmnc :: rest ∧
      view.receive observer.respondStatus = { view with
        gpsLock := some observer.mGpsLock
        connections := some observer.mConnections
        tac := some tac
        mccmnc := some mccmnc } := by
  have isLines : lines observer.respondStatus = statusHeader ::
      printLock observer.mGpsLock :: printNat observer.mConnections.toNat ::
        lines (observer.mTac ++ '\n' :: (observer.mMccmnc ++ '\n' ::
          printNat (if observer.mIsConnectivityStatusKnown then 1 else 0))) := by
    have header : lines statusHeader = [statusHeader] := lines_of_unbroken (by decide)
    simp only [respondStatus, lines_append, header, lines_of_unbroken (printLock_unbroken _),
      lines_of_unbroken (printNat_unbroken _), List.cons_append, List.nil_append]
  -- The texts have at least one line each.
  obtain ⟨tac, tacRest, isTac⟩ := List.exists_cons_of_ne_nil (lines_ne_nil observer.mTac)
  obtain ⟨mccmnc, mccmncRest, isMccmnc⟩ :=
    List.exists_cons_of_ne_nil (lines_ne_nil observer.mMccmnc)
  have several : ∃ second rest, tacRest ++ lines (observer.mMccmnc ++ '\n' ::
      printNat (if observer.mIsConnectivityStatusKnown then 1 else 0)) = second :: rest := by
    rw [lines_append, isMccmnc]
    cases tacRest with
    | nil => exact ⟨_, _, rfl⟩
    | cons second rest => exact ⟨_, _, rfl⟩
  obtain ⟨second, rest, isSecond⟩ := several
  have texts : lines (observer.mTac ++ '\n' :: (observer.mMccmnc ++ '\n' ::
      printNat (if observer.mIsConnectivityStatusKnown then 1 else 0))) = tac :: second :: rest := by
    rw [lines_append, isTac, List.cons_append, isSecond]
  refine ⟨tac, second, rest, texts, ?_⟩
  rw [receive, isLines, texts]
  simp only [List.head?_cons, if_true, List.tail_cons, receiveStatus, readLock_printLock,
    readConnections_printNat]

/-- An answer gives the daemon both texts exactly when neither has a line break. -/
theorem respondStatus_texts_iff (view : DaemonView) (observer : XtraSystemStatusObserver) :
    ((view.receive observer.respondStatus).tac = some observer.mTac ∧
        (view.receive observer.respondStatus).mccmnc = some observer.mMccmnc) ↔
      '\n' ∉ observer.mTac ∧ '\n' ∉ observer.mMccmnc := by
  obtain ⟨tac, mccmnc, rest, texts, received⟩ := receive_respondStatus view observer
  rw [received]
  simp only [Option.some.injEq]
  constructor
  · rintro ⟨rfl, rfl⟩
    constructor
    · exact line_unbroken (texts ▸ List.mem_cons_self)
    · exact line_unbroken (texts ▸ List.mem_cons_of_mem _ List.mem_cons_self)
  · rintro ⟨tacUnbroken, mccmncUnbroken⟩
    rw [lines_append, lines_of_unbroken tacUnbroken, lines_append,
      lines_of_unbroken mccmncUnbroken] at texts
    simp only [List.cons_append, List.nil_append, List.cons.injEq] at texts
    exact ⟨texts.1.symm, texts.2.1.symm⟩

/-- What an update changes in the daemon's view, once updates are sent. -/
def readUpdate (view : DaemonView) : XtraInput → DaemonView
  | .updateLockStatus lock => { view with gpsLock := some lock.toInt32 }
  | .updateConnections allConnections => { view with connections := some allConnections }
  | .updateTac tac => { view with tac := some (c_str tac) }
  | .updateMccMnc mccmnc => { view with mccmnc := some (c_str mccmnc) }
  | .updateXtraThrottle enabled => { view with xtraThrottle := some enabled }
  | .requestStatus => view

/-- Once asked, the observer sends what it tells. -/
theorem deliver_tellDaemon (world : XtraWorld) {observer : XtraSystemStatusObserver}
    (asked : observer.mReqStatusReceived = true) (message : Text) :
    world.deliver (observer.tellDaemon message) = ⟨observer, world.view.receive message⟩ := by
  simp [XtraWorld.deliver, tellDaemon, asked]

/-- An update that is sent is read as the field it is about. -/
theorem update_received (world : XtraWorld) (asked : world.observer.mReqStatusReceived = true)
    (input : XtraInput) (isUpdate : input ≠ .requestStatus) :
    (world.step input).view = readUpdate world.view input := by
  rw [XtraWorld.step]
  cases input with
  | requestStatus => exact absurd rfl isUpdate
  | updateLockStatus lock =>
    simp only [XtraWorld.call, updateLockStatus, deliver_tellDaemon, asked]
    rw [receive_field _ "gpslock" rfl (by decide) (by decide) (by decide)]
    simp [receiveField, readUpdate, readLock_printNat]
  | updateConnections allConnections =>
    simp only [XtraWorld.call, updateConnections, deliver_tellDaemon, asked]
    rw [receive_field _ "connection" rfl (by decide) (by decide) (by decide)]
    simp [receiveField, readUpdate, readConnections_printNat]
  | updateTac tac =>
    simp only [XtraWorld.call, updateTac, deliver_tellDaemon, asked]
    rw [receive_field _ "tac" rfl (by decide) (by decide) (by decide)]
    simp [receiveField, readUpdate]
  | updateMccMnc mccmnc =>
    simp only [XtraWorld.call, updateMccMnc, deliver_tellDaemon, asked]
    rw [receive_field _ "mncmcc" rfl (by decide) (by decide) (by decide)]
    simp [receiveField, readUpdate]
  | updateXtraThrottle enabled =>
    simp only [XtraWorld.call, updateXtraThrottle, deliver_tellDaemon, asked]
    rw [receive_field _ "xtrathrottle" rfl (by decide) (by decide) (by decide)]
    cases enabled <;> simp [receiveField, readUpdate]

/-- What an update leaves of the observer. -/
def remember (observer : XtraSystemStatusObserver) : XtraInput → XtraSystemStatusObserver
  | .updateLockStatus lock => { observer with mGpsLock := lock.toInt32 }
  | .updateConnections allConnections =>
    { observer with mIsConnectivityStatusKnown := true, mConnections := allConnections }
  | .updateTac tac => { observer with mTac := tac }
  | .updateMccMnc mccmnc => { observer with mMccmnc := mccmnc }
  | .updateXtraThrottle enabled => { observer with mXtraThrottle := enabled }
  | .requestStatus => { observer with mReqStatusReceived := true }

theorem step_observer (world : XtraWorld) (input : XtraInput) :
    (world.step input).observer = remember world.observer input := by
  cases input <;> rfl

/-- Before the first request an update reaches nobody. -/
theorem update_unheard (world : XtraWorld) (unasked : world.observer.mReqStatusReceived = false)
    (input : XtraInput) (isUpdate : input ≠ .requestStatus) :
    (world.step input).view = world.view ∧
      (world.step input).observer.mReqStatusReceived = false := by
  cases input with
  | requestStatus => exact absurd rfl isUpdate
  | _ =>
    simp only [XtraWorld.step, XtraWorld.call, XtraWorld.deliver, updateLockStatus,
      updateConnections, updateTac, updateMccMnc, updateXtraThrottle, tellDaemon, unasked]
    simp

theorem step_keeps_silent (started : DaemonView) (world : XtraWorld) (input : XtraInput)
    (silent : Silent started world) : Silent started (world.step input) := by
  intro unasked
  by_cases isUpdate : input = .requestStatus
  · rw [step_observer, isUpdate] at unasked
    cases unasked
  · have before : world.observer.mReqStatusReceived = false := by
      rw [step_observer] at unasked
      cases input with
      | requestStatus => exact absurd rfl isUpdate
      | _ => exact unasked
    rw [(update_unheard world before input isUpdate).1]
    exact silent before

/-- An update keeps the mirror exactly when its text survives `c_str()`. -/
theorem update_mirrored_iff (started : DaemonView) {world : XtraWorld} (mirrored : Mirrored world)
    (input : XtraInput) (isUpdate : input ≠ .requestStatus) :
    Mirrored (world.step input) ↔ Readable started world.observer input := by
  cases asked : world.observer.mReqStatusReceived with
  | false =>
    have unheard := (update_unheard world asked input isUpdate).2
    have vacuous : Mirrored (world.step input) := by
      intro nowAsked
      rw [unheard] at nowAsked
      cases nowAsked
    have readable : Readable started world.observer input := by
      cases input <;> simp_all [Readable]
    exact iff_of_true vacuous readable
  | true =>
    obtain ⟨gpsLock, connections, tac, mccmnc, xtraThrottle⟩ := mirrored asked
    have received := update_received world asked input isUpdate
    have still : (world.step input).observer.mReqStatusReceived = true := by
      rw [step_observer]
      cases input with
      | requestStatus => rfl
      | _ => exact asked
    have faithful_iff : Mirrored (world.step input) ↔ Faithful (world.step input) :=
      ⟨fun mirrored => mirrored still, fun faithful _ => faithful⟩
    rw [faithful_iff]
    constructor
    · rintro ⟨-, -, tacNow, mccmncNow, -⟩
      rw [received, step_observer] at tacNow mccmncNow
      cases input with
      | updateTac tac => exact fun _ => c_str_eq_iff.mp (Option.some.inj tacNow)
      | updateMccMnc mccmnc => exact fun _ => c_str_eq_iff.mp (Option.some.inj mccmncNow)
      | requestStatus => exact absurd rfl isUpdate
      | _ => trivial
    · intro readable
      constructor <;> rw [received, step_observer]
      all_goals cases input <;>
        simp_all [readUpdate, remember, Readable, c_str_eq_iff.mpr]

/-- A request restores the mirror exactly when the texts have no line break and the
daemon has the throttle already. -/
theorem request_mirrored_iff (started : DaemonView) {world : XtraWorld}
    (silent : Silent started world) (mirrored : Mirrored world) :
    Mirrored (world.step .requestStatus) ↔ Readable started world.observer .requestStatus := by
  have texts := respondStatus_texts_iff world.view
    { world.observer with mReqStatusReceived := true }
  obtain ⟨tac, mccmnc, rest, -, received⟩ := receive_respondStatus world.view
    { world.observer with mReqStatusReceived := true }
  have throttle : world.view.xtraThrottle = some world.observer.mXtraThrottle ↔
      (world.observer.mReqStatusReceived = false →
        started.xtraThrottle = some world.observer.mXtraThrottle) := by
    cases asked : world.observer.mReqStatusReceived with
    | true => exact iff_of_true (mirrored asked).xtraThrottle (by simp)
    | false => simp [silent asked]
  have isStep : world.step .requestStatus = ⟨{ world.observer with mReqStatusReceived := true },
      world.view.receive { world.observer with mReqStatusReceived := true }.respondStatus⟩ := rfl
  simp only [Readable, ← throttle]
  rw [isStep]
  constructor
  · intro mirrored
    obtain ⟨-, -, tacNow, mccmncNow, throttleNow⟩ := mirrored rfl
    obtain ⟨tacUnbroken, mccmncUnbroken⟩ := texts.mp ⟨tacNow, mccmncNow⟩
    rw [received] at throttleNow
    exact ⟨tacUnbroken, mccmncUnbroken, throttleNow⟩
  · rintro ⟨tacUnbroken, mccmncUnbroken, throttleNow⟩ _
    obtain ⟨tacNow, mccmncNow⟩ := texts.mpr ⟨tacUnbroken, mccmncUnbroken⟩
    exact ⟨by rw [received], by rw [received], tacNow, mccmncNow, by rw [received]; exact throttleNow⟩

theorem step_mirrored_iff (started : DaemonView) (world : XtraWorld) (input : XtraInput)
    (silent : Silent started world) (mirrored : Mirrored world) :
    Mirrored (world.step input) ↔ Readable started world.observer input := by
  by_cases isRequest : input = .requestStatus
  · rw [isRequest]
    exact request_mirrored_iff started silent mirrored
  · exact update_mirrored_iff started mirrored input isRequest

/-- The daemon mirrors the observer throughout a run exactly when every message of
the run can be read back and the throttle needs no message. -/
theorem mirror_faithful_iff_readable (started : DaemonView) (inputs : List XtraInput) :
    (∀ world ∈ states XtraWorld.step (XtraWorld.start started) inputs, Mirrored world) ↔
      ∀ taken ∈ steps XtraWorld.step (XtraWorld.start started) inputs,
        Readable started taken.1.observer taken.2 :=
  always_iff_each_step (step_keeps_silent started) (step_mirrored_iff started) inputs
    (fun _ => rfl) (by rintro ⟨⟩)

/-- Whatever the daemon takes the throttle for at the start, some run sets it
differently before the first request. -/
theorem early_throttle_never_arrives :
    ¬ ∃ started : DaemonView, ∀ inputs : List XtraInput,
      ∀ world ∈ states XtraWorld.step (XtraWorld.start started) inputs, Mirrored world := by
  rintro ⟨started, always⟩
  have throttle : ∀ observer : XtraSystemStatusObserver,
      (started.receive observer.respondStatus).xtraThrottle = started.xtraThrottle := by
    intro observer
    obtain ⟨tac, mccmnc, rest, -, received⟩ := receive_respondStatus started observer
    rw [received]
  have unset := (always [.requestStatus] _ (end_mem_states _ _) rfl).xtraThrottle
  have set := (always [.updateXtraThrottle false, .requestStatus] _
    (end_mem_states _ _) rfl).xtraThrottle
  have isTrue : started.xtraThrottle = some true := (throttle _).symm.trans unset
  have isFalse : started.xtraThrottle = some false := (throttle _).symm.trans set
  rw [isTrue] at isFalse
  cases isFalse

end Msm8917Common.Xtra.StatusProofs
