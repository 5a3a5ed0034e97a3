import Mathlib.Logic.Function.Basic
import Msm8917Common.GnssConfig
import Msm8917Common.Runs

/-! The cached configuration against what the modem accepted. An item is stored
before it is sent, so after a refusal the cache has a value that the modem does
not, and the same update is never sent again. -/
namespace Msm8917Common.Location.ControlConfig.ConfigProofs
open Runs

/-- The items whose value is cached and sent to the modem. -/
inductive CachedItem where
  | suplVersion | suplServer | lppProfile | lppeControlPlane | lppeUserPlane | aGlonassProtocol
  deriving DecidableEq

inductive CachedValue where
  | number (value : UInt32)
  | url (serverUrl : List Char)
  deriving DecidableEq

namespace CachedItem

def item : CachedItem → ConfigItem
  | suplVersion => .suplVersion
  | suplServer => .assistanceServer
  | lppProfile => .lppProfile
  | lppeControlPlane => .lppeControlPlane
  | lppeUserPlane => .lppeUserPlane
  | aGlonassProtocol => .aGlonassPositionProtocol

/-- The message updates the item. -/
def coveredBy (item : CachedItem) (config : GnssConfig) : Prop :=
  config.has item.item = true ∧ (item = suplServer → config.assistanceServer.type = .supl)

def cached (item : CachedItem) (cache : ConfigCache) : CachedValue :=
  match item with
  | suplVersion => .number cache.mGps_conf.SUPL_VER
  | suplServer => .url cache.mServerUrl
  | lppProfile => .number cache.mGps_conf.LPP_PROFILE
  | lppeControlPlane => .number cache.mGps_conf.LPPE_CP_TECHNOLOGY
  | lppeUserPlane => .number cache.mGps_conf.LPPE_UP_TECHNOLOGY
  | aGlonassProtocol => .number cache.mGps_conf.A_GLONASS_POS_PROTOCOL_SELECT

/-- The call that an update of the item makes to the modem, if any. -/
def send (config : GnssConfig) (cache : ConfigCache) : CachedItem → Option ConfigCall
  | suplVersion =>
    if convertSuplVersion config.suplVersion ≠ cache.mGps_conf.SUPL_VER &&
        cache.mGps_conf.AGPS_CONFIG_INJECT then some (.setSUPLVersion config.suplVersion) else none
  | suplServer =>
    if cache.mGps_conf.AGPS_CONFIG_INJECT then
      (suplUrl config.assistanceServer.hostName config.assistanceServer.port).bind fun printed =>
        if sameIgnoringCase cache.mServerUrl printed.1 then none
        else some (.setServerUrl printed.1 printed.2)
    else none
  | lppProfile =>
    if convertLppProfile config.lppProfile ≠ cache.mGps_conf.LPP_PROFILE &&
        cache.mGps_conf.AGPS_CONFIG_INJECT then some (.setLPPConfig config.lppProfile) else none
  | lppeControlPlane =>
    if convertLppeCp config.lppeControlPlaneMask ≠ cache.mGps_conf.LPPE_CP_TECHNOLOGY && true then
      some (.setLPPeProtocolCp config.lppeControlPlaneMask) else none
  | lppeUserPlane =>
    if convertLppeUp config.lppeUserPlaneMask ≠ cache.mGps_conf.LPPE_UP_TECHNOLOGY && true then
      some (.setLPPeProtocolUp config.lppeUserPlaneMask) else none
  | aGlonassProtocol =>
    if convertAGloProt config.aGlonassPositionProtocolMask ≠
          cache.mGps_conf.A_GLONASS_POS_PROTOCOL_SELECT &&
        cache.mGps_conf.AGPS_CONFIG_INJECT then
      some (.setAGLONASSProtocol config.aGlonassPositionProtocolMask) else none

/-- The error that is reported for the item where nothing is sent. -/
def unsentErr (cache : ConfigCache) (item : CachedItem) : LocationError :=
  if item = suplServer ∧ cache.mGps_conf.AGPS_CONFIG_INJECT = true then .invalidParameter
  else .success

end CachedItem

/-- The item a call sets at the modem, with the value in the form of the cache. -/
def ConfigCall.sets : ConfigCall → Option (CachedItem × CachedValue)
  | .setSUPLVersion version => some (.suplVersion, .number (convertSuplVersion version))
  | .setServerUrl url _ => some (.suplServer, .url url)
  | .setLPPConfig profile => some (.lppProfile, .number (convertLppProfile profile))
  | .setLPPeProtocolCp lppeCP => some (.lppeControlPlane, .number (convertLppeCp lppeCP))
  | .setLPPeProtocolUp lppeUP => some (.lppeUserPlane, .number (convertLppeUp lppeUP))
  | .setAGLONASSProtocol mask => some (.aGlonassProtocol, .number (convertAGloProt mask))
  | _ => none

/-- The last value of each item that the modem accepted, after one more call. -/
def acceptedAfter (answer : ConfigCall → LocationError) (accepted : CachedItem → Option CachedValue)
    (call : ConfigCall) : CachedItem → Option CachedValue :=
  match ConfigCall.sets call with
  | some (item, value) =>
    if answer call = .success then Function.update accepted item (some value) else accepted
  | none => accepted

/-- The cache, with what the modem accepted. -/
structure ConfigWorld where
  cache : ConfigCache
  accepted : CachedItem → Option CachedValue

/-- A message, with what it meets. -/
def ConfigWorld.step (world : ConfigWorld) (message : GnssConfig × ConfigEnv) : ConfigWorld :=
  let result := proc world.cache message.1 message.2
  ⟨result.cache, result.calls.foldl (acceptedAfter message.2.answer) world.accepted⟩

/-- A cached value differs from what the modem accepted last only if it accepted
nothing yet. -/
def NeverAhead (world : ConfigWorld) : Prop :=
  ∀ (item : CachedItem) (value : CachedValue),
    world.accepted item = some value → item.cached world.cache = value

/-- After an error for an item, the same message sends the item to the modem again. -/
def RetriesFailed (world : ConfigWorld) (message : GnssConfig × ConfigEnv) : Prop :=
  ∀ item : CachedItem, item.coveredBy message.1 → ∀ err,
    (item.item, err) ∈ (proc world.cache message.1 message.2).errs → err ≠ .success →
      ∀ again, ∃ call ∈ (proc (proc world.cache message.1 message.2).cache message.1 again).calls,
        ∃ value, ConfigCall.sets call = some (item, value)

/-- The modem accepts whatever the message sends of the items, and a message for
the SUPL server does send one, unless nothing is to be injected. -/
def AllAccepted (world : ConfigWorld) (message : GnssConfig × ConfigEnv) : Prop :=
  ∀ item : CachedItem, item.coveredBy message.1 →
    match item.send message.1 world.cache with
    | some call => message.2.answer call = .success
    | none => item = .suplServer → world.cache.mGps_conf.AGPS_CONFIG_INJECT = false

section Blocks
variable {config : GnssConfig} {env : ConfigEnv} {cache : ConfigCache} {item : CachedItem}
  {items : List ConfigItem}

/-- A block leaves the item alone: its value, and its calls to the modem. -/
structure Untouched (item : CachedItem) (cache after : ConfigCache) (calls : List ConfigCall) :
    Prop where
  cached : item.cached after = item.cached cache
  inject : after.mGps_conf.AGPS_CONFIG_INJECT = cache.mGps_conf.AGPS_CONFIG_INJECT
  calls : ∀ call ∈ calls, ∀ value, ConfigCall.sets call ≠ some (item, value)

/-- A block, or the whole handler, updates the item: it makes the one call that the
cache asks for, and stores what it sends. -/
structure Updated (config : GnssConfig) (item : CachedItem) (cache after : ConfigCache) :
    Prop where
  inject : after.mGps_conf.AGPS_CONFIG_INJECT = cache.mGps_conf.AGPS_CONFIG_INJECT
  sent : ∀ call, item.send config cache = some call →
    ConfigCall.sets call = some (item, item.cached after)
  unsent : item.send config cache = none → item.cached after = item.cached cache
  silent : item.send config after = none

/-- A cache for which there is nothing to send stays as it is. -/
private theorem updated_of_nothing (nothing : item.send config cache = none) :
    Updated config item cache cache := by
  refine ⟨rfl, fun call sent => ?_, fun _ => rfl, nothing⟩
  rw [nothing] at sent
  cases sent

/-- What an item sends depends on its own cached value only. -/
private theorem send_congr {other : ConfigCache} (same : item.cached other = item.cached cache)
    (inject : other.mGps_conf.AGPS_CONFIG_INJECT = cache.mGps_conf.AGPS_CONFIG_INJECT) :
    item.send config other = item.send config cache := by
  cases item with
  | suplServer =>
    simp only [CachedItem.cached, CachedValue.url.injEq] at same
    simp only [CachedItem.send, same, inject]
  | _ =>
    simp only [CachedItem.cached, CachedValue.number.injEq] at same
    simp only [CachedItem.send, same, inject]

section SharedShape
variable {cached new : UInt32} {allowed : Bool} {store : GpsConf → GpsConf} {call : ConfigCall}

private theorem updateItem_untouched
    (stored : item.cached { cache with mGps_conf := store cache.mGps_conf } = item.cached cache)
    (inject : (store cache.mGps_conf).AGPS_CONFIG_INJECT = cache.mGps_conf.AGPS_CONFIG_INJECT)
    (other : ∀ value, ConfigCall.sets call ≠ some (item, value)) :
    Untouched item cache (updateItem cache env cached new allowed store call).cache
      (updateItem cache env cached new allowed store call).calls := by
  unfold updateItem
  split
  · refine ⟨stored, inject, fun called member => ?_⟩
    cases List.mem_singleton.mp member
    exact other
  · exact ⟨rfl, rfl, fun _ member => absurd member List.not_mem_nil⟩

private theorem updateItem_covered
    (sends : item.send config cache = if new ≠ cached && allowed then some call else none)
    (unsent : item.unsentErr cache = .success)
    (silent : item.send config { cache with mGps_conf := store cache.mGps_conf } = none)
    (inject : (store cache.mGps_conf).AGPS_CONFIG_INJECT = cache.mGps_conf.AGPS_CONFIG_INJECT)
    (sets : ConfigCall.sets call =
      some (item, item.cached { cache with mGps_conf := store cache.mGps_conf })) :
    (updateItem cache env cached new allowed store call).calls =
        (item.send config cache).toList ∧
      (updateItem cache env cached new allowed store call).err =
        (item.send config cache).elim (item.unsentErr cache) env.answer ∧
      Updated config item cache (updateItem cache env cached new allowed store call).cache := by
  unfold updateItem
  split
  · next changed =>
    rw [if_pos changed] at sends
    rw [sends]
    refine ⟨rfl, rfl, inject, fun sent same => ?_, fun none => ?_, silent⟩
    · rw [sends] at same
      cases same
      exact sets
    · rw [sends] at none
      cases none
  · next unchanged =>
    rw [if_neg unchanged] at sends
    rw [sends]
    exact ⟨rfl, unsent.symm, updated_of_nothing sends⟩

end SharedShape

private theorem sameIgnoringCase_refl (url : List Char) : sameIgnoringCase url url = true :=
  decide_eq_true rfl

private theorem server_covered (supl : config.assistanceServer.type = .supl) :
    (update config env cache .assistanceServer).calls =
        (CachedItem.suplServer.send config cache).toList ∧
      (update config env cache .assistanceServer).err =
        (CachedItem.suplServer.send config cache).elim (CachedItem.suplServer.unsentErr cache)
          env.answer ∧
      Updated config .suplServer cache (update config env cache .assistanceServer).cache := by
  simp only [update, supl, setSuplHostServer]
  split
  · next inject =>
    cases printed : suplUrl config.assistanceServer.hostName config.assistanceServer.port with
    | none =>
      have nothing : CachedItem.suplServer.send config cache = none := by
        simp only [CachedItem.send, printed, Option.bind_none, ite_self]
      simp only [nothing]
      exact ⟨rfl, by simp [CachedItem.unsentErr, inject], updated_of_nothing nothing⟩
    | some url =>
      obtain ⟨serverUrl, length⟩ := url
      by_cases same : sameIgnoringCase cache.mServerUrl serverUrl = true
      · have nothing : CachedItem.suplServer.send config cache = none := by
          simp only [CachedItem.send, printed, Option.bind_some, same, if_true, ite_self]
        simp only [nothing, same, if_true]
        exact ⟨rfl, by simp [CachedItem.unsentErr, inject], updated_of_nothing nothing⟩
      · have sends : CachedItem.suplServer.send config cache =
            some (.setServerUrl serverUrl length) := by
          simp only [CachedItem.send, inject, printed, Option.bind_some, same, if_true]
          rfl
        simp only [sends, same]
        refine ⟨rfl, rfl, rfl, ?_, ?_, ?_⟩
        · intro call sent
          rw [sends] at sent
          cases sent
          rfl
        · intro unsent
          rw [sends] at unsent
          cases unsent
        · simp [CachedItem.send, printed, sameIgnoringCase_refl]
  · next skip =>
    have nothing : CachedItem.suplServer.send config cache = none := by
      simp only [CachedItem.send, if_neg skip]
    simp only [nothing]
    exact ⟨rfl, by simp [CachedItem.unsentErr, skip], updated_of_nothing nothing⟩

/-- What a block calls and reports, in terms of what its item sends. -/
private theorem update_covered (covered : item.coveredBy config) :
    (update config env cache item.item).calls = (item.send config cache).toList ∧
    (update config env cache item.item).err =
      (item.send config cache).elim (item.unsentErr cache) env.answer ∧
    Updated config item cache (update config env cache item.item).cache := by
  cases item with
  | suplServer => exact server_covered (covered.2 rfl)
  | _ => exact updateItem_covered rfl rfl (by simp [CachedItem.send]) rfl rfl

/-- A block of another item, or of another kind of server, leaves the item alone. -/
private theorem update_untouched (other : ConfigItem)
    (apart : other = item.item → ¬ item.coveredBy config) (flagged : config.has other = true) :
    Untouched item cache (update config env cache other).cache
      (update config env cache other).calls := by
  cases other with
  | gpsLock =>
    simp only [update]
    split
    · exact ⟨by cases item <;> rfl, rfl, by simp [ConfigCall.sets]⟩
    · exact ⟨by cases item <;> rfl, rfl, by simp⟩
  | suplVersion =>
    cases item with
    | suplVersion => exact absurd ⟨flagged, by rintro ⟨⟩⟩ (apart rfl)
    | _ => exact updateItem_untouched rfl rfl (by simp [ConfigCall.sets])
  | assistanceServer =>
    simp only [update]
    split
    · next supl =>
      cases item with
      | suplServer => exact absurd ⟨flagged, fun _ => supl⟩ (apart rfl)
      | _ =>
        simp only [setSuplHostServer]
        repeat' split
        all_goals exact ⟨rfl, rfl, by simp [ConfigCall.sets]⟩
    · repeat' split
      all_goals exact ⟨rfl, rfl, by simp [ConfigCall.sets]⟩
    · exact ⟨rfl, rfl, by simp⟩
  | lppProfile =>
    cases item with
    | lppProfile => exact absurd ⟨flagged, by rintro ⟨⟩⟩ (apart rfl)
    | _ => exact updateItem_untouched rfl rfl (by simp [ConfigCall.sets])
  | lppeControlPlane =>
    cases item with
    | lppeControlPlane => exact absurd ⟨flagged, by rintro ⟨⟩⟩ (apart rfl)
    | _ => exact updateItem_untouched rfl rfl (by simp [ConfigCall.sets])
  | lppeUserPlane =>
    cases item with
    | lppeUserPlane => exact absurd ⟨flagged, by rintro ⟨⟩⟩ (apart rfl)
    | _ => exact updateItem_untouched rfl rfl (by simp [ConfigCall.sets])
  | aGlonassPositionProtocol =>
    cases item with
    | aGlonassProtocol => exact absurd ⟨flagged, by rintro ⟨⟩⟩ (apart rfl)
    | _ => exact updateItem_untouched rfl rfl (by simp [ConfigCall.sets])
  | emergencyPdnForEmergencySupl => exact ⟨by cases item <;> rfl, rfl, by simp [update]⟩
  | suplEmergencyServices => exact ⟨by cases item <;> rfl, rfl, by simp [update]⟩
  | suplMode =>
    refine ⟨by cases item <;> rfl, rfl, fun call called => ?_⟩
    simp only [update] at called
    split at called
    · cases List.mem_singleton.mp called
      simp [ConfigCall.sets]
    · cases called

end Blocks

section Handler
variable {config : GnssConfig} {env : ConfigEnv} {cache : ConfigCache} {item : CachedItem}
  {items : List ConfigItem} {answer : ConfigCall → LocationError}

private theorem accepted_untouched {calls : List ConfigCall}
    (other : ∀ call ∈ calls, ∀ value, ConfigCall.sets call ≠ some (item, value))
    (accepted : CachedItem → Option CachedValue) :
    calls.foldl (acceptedAfter answer) accepted item = accepted item := by
  induction calls generalizing accepted with
  | nil => rfl
  | cons call rest ih =>
    rw [List.foldl_cons, ih fun later member => other later (List.mem_cons_of_mem call member)]
    cases sets : ConfigCall.sets call with
    | none => simp only [acceptedAfter, sets]
    | some named =>
      have apart : item ≠ named.1 := by
        rintro rfl
        exact other call List.mem_cons_self named.2 sets
      simp only [acceptedAfter, sets]
      split
      · exact Function.update_of_ne apart _ _
      · rfl

private theorem procItems_untouched (items : List ConfigItem) (cache : ConfigCache)
    (absent : item.coveredBy config → item.item ∉ items) :
    Untouched item cache (procItems config env items cache).cache
      (procItems config env items cache).calls := by
  induction items generalizing cache with
  | nil => exact ⟨rfl, rfl, fun _ member => absurd member List.not_mem_nil⟩
  | cons other rest ih =>
    have later := ih (update config env cache other).cache
      fun covered member => absent covered (List.mem_cons_of_mem other member)
    unfold procItems
    split
    · next flagged =>
      have now : Untouched item cache (update config env cache other).cache
          (update config env cache other).calls :=
        update_untouched other (fun same covered => absent covered (same ▸ List.mem_cons_self))
          flagged
      refine ⟨later.cached.trans now.cached, later.inject.trans now.inject, fun call member => ?_⟩
      rcases List.mem_append.mp member with first | second
      · exact now.calls call first
      · exact later.calls call second
    · exact ih cache fun covered member => absent covered (List.mem_cons_of_mem other member)

/-- What the handler does for an item that the message covers: as much as its own
block does on the cache that the message found. -/
structure Handled (config : GnssConfig) (env : ConfigEnv) (item : CachedItem)
    (cache : ConfigCache) (result : UpdateResult) : Prop where
  updated : Updated config item cache result.cache
  calls : ∀ call, (call ∈ result.calls ∧ ∃ value, ConfigCall.sets call = some (item, value)) ↔
    item.send config cache = some call
  errs : ∀ err, (item.item, err) ∈ result.errs ↔
    err = (item.send config cache).elim (item.unsentErr cache) env.answer
  accepted : ∀ accepted, result.calls.foldl (acceptedAfter env.answer) accepted item =
    match item.send config cache with
    | some call => if env.answer call = .success then some (item.cached result.cache)
        else accepted item
    | none => accepted item

private theorem errs_of_items (items : List ConfigItem) (cache : ConfigCache) {other : ConfigItem}
    {err : LocationError} (reported : (other, err) ∈ (procItems config env items cache).errs) :
    other ∈ items := by
  induction items generalizing cache with
  | nil => cases reported
  | cons head rest ih =>
    unfold procItems at reported
    split at reported
    · rcases List.mem_cons.mp reported with now | later
      · cases now
        exact List.mem_cons_self
      · exact List.mem_cons_of_mem head (ih _ later)
    · exact List.mem_cons_of_mem head (ih _ reported)

/-- The item's own block first, and then blocks that leave it alone. -/
private theorem handled_now {result : ItemResult} {later : UpdateResult}
    (calls : result.calls = (item.send config cache).toList)
    (err : result.err = (item.send config cache).elim (item.unsentErr cache) env.answer)
    (updated : Updated config item cache result.cache)
    (rest : Untouched item result.cache later.cache later.calls)
    (errs : ∀ err, (item.item, err) ∉ later.errs) :
    Handled config env item cache
      ⟨later.cache, result.calls ++ later.calls, (item.item, result.err) :: later.errs⟩ where
  updated :=
    { inject := rest.inject.trans updated.inject
      sent := fun call sent => by rw [rest.cached]; exact updated.sent call sent
      unsent := fun unsent => rest.cached.trans (updated.unsent unsent)
      silent := (send_congr rest.cached rest.inject).trans updated.silent }
  calls call := by
    rw [calls, List.mem_append, Option.mem_toList]
    constructor
    · rintro ⟨sent | silent, value, sets⟩
      · exact sent
      · exact absurd sets (rest.calls call silent value)
    · exact fun sent => ⟨.inl sent, _, updated.sent call sent⟩
  errs reported := by
    rw [List.mem_cons, ← err]
    simp only [Prod.mk.injEq, true_and, errs, or_false]
  accepted accepted := by
    rw [List.foldl_append, accepted_untouched rest.calls, calls]
    cases sends : item.send config cache with
    | none => rfl
    | some call =>
      have sets := updated.sent call sends
      simp only [Option.toList_some, List.foldl_cons, List.foldl_nil, acceptedAfter, sets,
        rest.cached]
      split
      · exact Function.update_self ..
      · rfl

/-- A block that leaves the item alone, and the item's own block later. -/
private theorem handled_later {other : ConfigItem} {result : ItemResult} {later : UpdateResult}
    (apart : other ≠ item.item) (first : Untouched item cache result.cache result.calls)
    (handled : Handled config env item result.cache later) :
    Handled config env item cache
      ⟨later.cache, result.calls ++ later.calls, (other, result.err) :: later.errs⟩ := by
  have same_send : item.send config result.cache = item.send config cache :=
    send_congr first.cached first.inject
  have same_err : item.unsentErr result.cache = item.unsentErr cache := by
    simp only [CachedItem.unsentErr, first.inject]
  obtain ⟨updated, calls, errs, accepted⟩ := handled
  rw [same_send] at calls errs accepted
  refine ⟨⟨updated.inject.trans first.inject, ?_, ?_, updated.silent⟩, fun call => ?_,
    fun err => ?_, fun before => ?_⟩
  · exact fun call sent => updated.sent call (same_send.trans sent)
  · exact fun unsent => (updated.unsent (same_send.trans unsent)).trans first.cached
  · rw [← calls, List.mem_append]
    constructor
    · rintro ⟨early | late, value, sets⟩
      · exact absurd sets (first.calls call early value)
      · exact ⟨late, value, sets⟩
    · exact fun ⟨late, sets⟩ => ⟨.inr late, sets⟩
  · rw [← same_err, ← errs, List.mem_cons]
    refine or_iff_right fun same => apart ?_
    exact (Prod.mk.inj same).1.symm
  · rw [List.foldl_append, accepted, accepted_untouched first.calls]

private theorem procItems_covered (items : List ConfigItem) (cache : ConfigCache)
    (covered : item.coveredBy config) (nodup : items.Nodup) (member : item.item ∈ items) :
    Handled config env item cache (procItems config env items cache) := by
  induction items generalizing cache with
  | nil => cases member
  | cons other rest ih =>
    obtain ⟨fresh, later_nodup⟩ := List.nodup_cons.mp nodup
    unfold procItems
    by_cases same : other = item.item
    · subst same
      obtain ⟨calls, err, updated⟩ := update_covered covered
      rw [if_pos covered.1]
      exact handled_now calls err updated (procItems_untouched rest _ fun _ => fresh)
        fun err reported => fresh (errs_of_items rest _ reported)
    · have there := (List.mem_cons.mp member).resolve_left (Ne.symm same)
      split
      · next flagged =>
        exact handled_later same (update_untouched other (fun own => absurd own same) flagged)
          (ih _ later_nodup there)
      · exact ih cache later_nodup there

theorem proc_covered (env : ConfigEnv) (cache : ConfigCache) (covered : item.coveredBy config) :
    Handled config env item cache (proc cache config env) :=
  procItems_covered _ cache covered (by decide) (by cases item <;> decide)

end Handler

section Message
variable {world : ConfigWorld} {message : GnssConfig × ConfigEnv}

/-- Whatever the modem answered, a message that is repeated sends nothing. -/
theorem repeated_message_is_silent (cache : ConfigCache) (config : GnssConfig)
    (env again : ConfigEnv) {item : CachedItem} (covered : item.coveredBy config) :
    ∀ call ∈ (proc (proc cache config env).cache config again).calls,
      ∀ value, ConfigCall.sets call ≠ some (item, value) := by
  intro call called value sets
  have sends := ((proc_covered again (proc cache config env).cache covered).calls call).mp
    ⟨called, value, sets⟩
  rw [(proc_covered env cache covered).updated.silent] at sends
  cases sends

private theorem retries_iff_accepted :
    RetriesFailed world message ↔ AllAccepted world message := by
  obtain ⟨config, env⟩ := message
  constructor
  · intro retries item covered
    have handled := proc_covered env world.cache covered
    -- Where an error is reported, the retry would have to send what it does not send.
    have success : (item.send config world.cache).elim (item.unsentErr world.cache) env.answer =
        .success := by
      by_contra failed
      obtain ⟨call, called, value, sets⟩ :=
        retries item covered _ ((handled.errs _).mpr rfl) failed env
      exact repeated_message_is_silent world.cache config env env covered call called value sets
    cases sends : item.send config world.cache with
    | some call =>
      rw [sends] at success
      exact success
    | none =>
      rintro rfl
      rw [sends] at success
      simpa [CachedItem.unsentErr] using success
  · intro accepted item covered err reported failed
    have same := ((proc_covered env world.cache covered).errs err).mp reported
    have item_accepted := accepted item covered
    refine absurd ?_ failed
    rw [same]
    cases sends : item.send config world.cache with
    | some call =>
      rw [sends] at item_accepted
      exact item_accepted
    | none =>
      rw [sends] at item_accepted
      refine if_neg fun both => ?_
      rw [item_accepted both.1] at both
      exact Bool.false_ne_true both.2

private theorem never_ahead_after (behind : NeverAhead world)
    (accepted : AllAccepted world message) : NeverAhead (world.step message) := by
  obtain ⟨config, env⟩ := message
  intro item value last
  simp only [ConfigWorld.step] at last ⊢
  by_cases covered : item.coveredBy config
  · have handled := proc_covered env world.cache covered
    have item_accepted := accepted item covered
    rw [handled.accepted] at last
    cases sends : item.send config world.cache with
    | some call =>
      simp only [sends] at item_accepted last
      rw [if_pos item_accepted] at last
      exact Option.some.inj last
    | none =>
      rw [sends] at last
      exact (handled.updated.unsent sends).trans (behind item value last)
  · have untouched : Untouched item world.cache (proc world.cache config env).cache
        (proc world.cache config env).calls :=
      procItems_untouched _ _ fun own => absurd own covered
    rw [accepted_untouched untouched.calls] at last
    exact untouched.cached.trans (behind item value last)

end Message

/-- In a run the cache never gets ahead of the modem, and every reported error is
followed by another try, exactly if the modem accepts all that is sent and each
message for the SUPL server sends something. -/
theorem cache_follows_modem_iff_all_accepted (cache : ConfigCache)
    (messages : List (GnssConfig × ConfigEnv)) :
    ((∀ world ∈ states ConfigWorld.step ⟨cache, fun _ => none⟩ messages, NeverAhead world) ∧
      ∀ taken ∈ steps ConfigWorld.step ⟨cache, fun _ => none⟩ messages,
        RetriesFailed taken.1 taken.2) ↔
    ∀ taken ∈ steps ConfigWorld.step ⟨cache, fun _ => none⟩ messages,
      AllAccepted taken.1 taken.2 := by
  refine always_with_events_iff_each_step (fun _ _ (_ : True) => trivial) ?_ messages
    trivial (fun _ _ last => by cases last)
  intro world message _ behind
  rw [retries_iff_accepted]
  exact and_iff_right_of_imp (never_ahead_after behind)

/-- The modem accepts one LPP profile and refuses the next: the cache has the
second, and a repeated update never reaches the modem. -/
theorem refused_profile_is_never_sent_again :
    (¬ ∀ cache messages, ∀ world ∈ states ConfigWorld.step ⟨cache, fun _ => none⟩ messages,
      NeverAhead world) ∧
    ¬ ∀ cache messages, ∀ taken ∈ steps ConfigWorld.step ⟨cache, fun _ => none⟩ messages,
      RetriesFailed taken.1 taken.2 := by
  let cache : ConfigCache := ⟨⟨0, 0, 0, 0, 0, 0, 0, 0, 0, true⟩, []⟩
  let profile (lppProfile : GnssConfigLppProfile) : GnssConfig :=
    ⟨8, .none, .v1_0_0, ⟨.supl, none, 0⟩, lppProfile, 0, 0, 0, false, false, 0⟩
  let accepting : ConfigEnv := ⟨fun _ => .success, fun _ => none, 0⟩
  let refusing : ConfigEnv := ⟨fun _ => .generalFailure, fun _ => none, 0⟩
  constructor
  · intro behind
    have last := behind cache [(profile .userPlane, accepting), (profile .controlPlane, refusing)] _
      (end_mem_states _ _) .lppProfile (.number 1) (by decide)
    exact absurd last (by decide)
  · intro retries
    have covered : CachedItem.lppProfile.coveredBy (profile .userPlane) :=
      ⟨by decide, fun server => by cases server⟩
    obtain ⟨call, called, value, sets⟩ := retries cache _ _ (last_mem_steps _ []
      (profile .userPlane, refusing)) .lppProfile covered .generalFailure (by decide)
      (by decide) refusing
    exact repeated_message_is_silent _ _ _ _ covered call called value sets

end Msm8917Common.Location.ControlConfig.ConfigProofs
