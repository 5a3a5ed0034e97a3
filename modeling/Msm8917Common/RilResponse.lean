import Mathlib.Data.List.Forall2
import Msm8917Common.CLayout
import Msm8917Common.CText

/-! What the vendor's code answers to a request, as `ril_service.cpp` takes it: memory and
its length in bytes. `getIccCardStatusResponse` tells two layouts of a SIM card apart by
this length. A pointer size is four bytes, as on the 32-bit system of this device. -/
namespace Msm8917Common.RilResponse
open CLayout CText

/-- `response` and `responseLen`. Bytes behind the last whole word are not read as one. -/
structure Response where
  words : List Word
  responseLen : Nat
  whole : words.length = responseLen / 4

/-- The texts in the memory of the vendor's code, at the addresses where one can be read. -/
abbrev Strings := Word → Option Text

inductive RadioResponseType where
  | solicited
  | solicitedAckExp
  deriving DecidableEq

structure RadioResponseInfo where
  type : RadioResponseType
  serial : Word
  error : Word
  deriving DecidableEq

def RIL_E_SUCCESS : Word := 0

/-- `RadioError::INVALID_RESPONSE`, the number of `RIL_E_INVALID_RESPONSE`. -/
def INVALID_RESPONSE : Word := 66

def RESPONSE_SOLICITED_ACK_EXP : Nat := 3

def populateResponseInfo (serial : Word) (responseType : Nat) (e : Word) : RadioResponseInfo where
  type := if responseType = RESPONSE_SOLICITED_ACK_EXP then .solicitedAckExp else .solicited
  serial := serial
  error := e

/-- A response that cannot be read is an error, unless the request has failed anyway. -/
def RadioResponseInfo.invalid (info : RadioResponseInfo) (e : Word) : RadioResponseInfo :=
  if e = RIL_E_SUCCESS then { info with error := INVALID_RESPONSE } else info

/-- The text at a pointer, where `none` is a read of memory that cannot be read. -/
def convertCharPtrToHidlString (strings : Strings) (ptr : Word) : Option Text :=
  if ptr = 0 then some [] else strings ptr

structure RIL_AppStatus_AOSP_Compat where
  app_type : Word
  app_state : Word
  perso_substate : Word
  aid_ptr : Word
  app_label_ptr : Word
  pin1_replaced : Word
  pin1 : Word
  pin2 : Word

/-- `foo1` to `foo5` count the tries that are left for the codes. -/
structure RIL_AppStatus extends RIL_AppStatus_AOSP_Compat where
  foo1 : Word
  foo2 : Word
  foo3 : Word
  foo4 : Word
  foo5 : Word

structure RIL_CardStatus_Header_Compat where
  card_state : Word
  universal_pin_state : Word
  gsm_umts_subscription_app_index : Word
  cdma_subscription_app_index : Word
  ims_subscription_app_index : Word
  num_applications : Word

def RIL_CARD_MAX_APPS : Nat := 8

/-- Either layout of a card: the header, then the applications. -/
structure CardLayout (App : Type) where
  header : RIL_CardStatus_Header_Compat
  applications : List.Vector App RIL_CARD_MAX_APPS

abbrev RIL_CardStatus_v6_AOSP_Compat := CardLayout RIL_AppStatus_AOSP_Compat

abbrev RIL_CardStatus_v6 := CardLayout RIL_AppStatus

namespace Layouts
open Layout

def aospApp : Layout RIL_AppStatus_AOSP_Compat :=
  (word.pair (word.pair (word.pair (word.pair (word.pair (word.pair (word.pair word))))))).as
    { toFun := fun (a, b, c, d, e, f, g, h) => ⟨a, b, c, d, e, f, g, h⟩
      invFun := fun app => (app.app_type, app.app_state, app.perso_substate, app.aid_ptr,
        app.app_label_ptr, app.pin1_replaced, app.pin1, app.pin2)
      left_inv := fun _ => rfl
      right_inv := fun _ => rfl }

def app : Layout RIL_AppStatus :=
  (aospApp.pair (word.pair (word.pair (word.pair (word.pair word))))).as
    { toFun := fun (app, a, b, c, d, e) => ⟨app, a, b, c, d, e⟩
      invFun := fun app => (app.toRIL_AppStatus_AOSP_Compat, app.foo1, app.foo2, app.foo3,
        app.foo4, app.foo5)
      left_inv := fun _ => rfl
      right_inv := fun _ => rfl }

def header : Layout RIL_CardStatus_Header_Compat :=
  (word.pair (word.pair (word.pair (word.pair (word.pair word))))).as
    { toFun := fun (a, b, c, d, e, f) => ⟨a, b, c, d, e, f⟩
      invFun := fun header => (header.card_state, header.universal_pin_state,
        header.gsm_umts_subscription_app_index, header.cdma_subscription_app_index,
        header.ims_subscription_app_index, header.num_applications)
      left_inv := fun _ => rfl
      right_inv := fun _ => rfl }

def card {App : Type} (app : Layout App) : Layout (CardLayout App) :=
  (header.pair (app.array RIL_CARD_MAX_APPS)).as
    { toFun := fun parts => ⟨parts.1, parts.2⟩
      invFun := fun card => (card.header, card.applications)
      left_inv := fun _ => rfl
      right_inv := fun _ => rfl }

end Layouts

structure AppStatus where
  appType : Word
  appState : Word
  persoSubstate : Word
  aidPtr : Text
  appLabelPtr : Text
  pin1Replaced : Word
  pin1 : Word
  pin2 : Word
  deriving DecidableEq

structure CardStatus where
  cardState : Word
  universalPinState : Word
  gsmUmtsSubscriptionAppIndex : Word
  cdmaSubscriptionAppIndex : Word
  imsSubscriptionAppIndex : Word
  applications : List AppStatus
  deriving DecidableEq

def CardStatus.empty : CardStatus := ⟨0, 0, 0, 0, 0, []⟩

/-- The body of the two loops. -/
def convertAppStatus (strings : Strings) (app : RIL_AppStatus_AOSP_Compat) : Option AppStatus := do
  let aidPtr ← convertCharPtrToHidlString strings app.aid_ptr
  let appLabelPtr ← convertCharPtrToHidlString strings app.app_label_ptr
  some
    { appType := app.app_type
      appState := app.app_state
      persoSubstate := app.perso_substate
      aidPtr := aidPtr
      appLabelPtr := appLabelPtr
      pin1Replaced := app.pin1_replaced
      pin1 := app.pin1
      pin2 := app.pin2 }

/-- One of the two loops: the first `num_applications` entries of the array. -/
def convertApplications {App : Type} (strings : Strings) (app : Layout App)
    (common : App → RIL_AppStatus_AOSP_Compat) (words : List Word) (num_applications : Nat) :
    Option (List AppStatus) := do
  let p_cur ← (Layouts.card app).read words
  (p_cur.applications.toList.take num_applications).mapM fun rilAppStatus =>
    convertAppStatus strings (common rilAppStatus)

/-- `sizeof(RIL_CardStatus_v6_AOSP_Compat)`. -/
def aospSize : Nat := 4 * (Layouts.card Layouts.aospApp).size

/-- `sizeof(RIL_CardStatus_v6)`. -/
def samsungSize : Nat := 4 * (Layouts.card Layouts.app).size

example : aospSize = 280 ∧ samsungSize = 440 := by decide

/-- What the framework is told, where `none` is a read of memory that cannot be read. -/
def getIccCardStatusResponse (strings : Strings) (serial : Word) (responseType : Nat) (e : Word)
    (response : Option Response) : Option (RadioResponseInfo × CardStatus) :=
  let responseInfo := populateResponseInfo serial responseType e
  let invalid := some (responseInfo.invalid e, CardStatus.empty)
  match response with
  | none => invalid
  | some response =>
    if response.responseLen ≠ aospSize ∧ response.responseLen ≠ samsungSize then invalid
    else do
      let header ← Layouts.header.read response.words
      if header.num_applications.toInt < 0 ∨
          (RIL_CARD_MAX_APPS : Int) < header.num_applications.toInt then invalid
      else
        let num_applications := header.num_applications.toInt.toNat
        let applications ←
          if response.responseLen = aospSize then
            convertApplications strings Layouts.aospApp id response.words num_applications
          else
            convertApplications strings Layouts.app RIL_AppStatus.toRIL_AppStatus_AOSP_Compat
              response.words num_applications
        some (responseInfo,
          { cardState := header.card_state
            universalPinState := header.universal_pin_state
            gsmUmtsSubscriptionAppIndex := header.gsm_umts_subscription_app_index
            cdmaSubscriptionAppIndex := header.cdma_subscription_app_index
            imsSubscriptionAppIndex := header.ims_subscription_app_index
            applications := applications })

/-- A text lies at a pointer, or there is no pointer and the text is empty. -/
def PointsTo (strings : Strings) (ptr : Word) (text : Text) : Prop :=
  (ptr = 0 ∧ text = []) ∨ (ptr ≠ 0 ∧ strings ptr = some text)

theorem convertCharPtrToHidlString_eq_some {strings : Strings} {ptr : Word} {text : Text} :
    convertCharPtrToHidlString strings ptr = some text ↔ PointsTo strings ptr text := by
  unfold convertCharPtrToHidlString PointsTo
  by_cases null : ptr = 0
  · simp [null, eq_comm]
  · simp only [null, if_false, ne_eq, not_false_eq_true, true_and, false_and, false_or]

theorem convertCharPtrToHidlString_eq_none {strings : Strings} {ptr : Word} :
    convertCharPtrToHidlString strings ptr = none ↔ ptr ≠ 0 ∧ strings ptr = none := by
  unfold convertCharPtrToHidlString
  by_cases null : ptr = 0
  · simp [null]
  · simp only [null, if_false, ne_eq, not_false_eq_true, true_and]

/-- An application, and what the framework is told of it. -/
structure Shows (strings : Strings) (app : RIL_AppStatus_AOSP_Compat) (status : AppStatus) :
    Prop where
  appType : status.appType = app.app_type
  appState : status.appState = app.app_state
  persoSubstate : status.persoSubstate = app.perso_substate
  aidPtr : PointsTo strings app.aid_ptr status.aidPtr
  appLabelPtr : PointsTo strings app.app_label_ptr status.appLabelPtr
  pin1Replaced : status.pin1Replaced = app.pin1_replaced
  pin1 : status.pin1 = app.pin1
  pin2 : status.pin2 = app.pin2

theorem convertAppStatus_eq_some {strings : Strings} {app : RIL_AppStatus_AOSP_Compat}
    {status : AppStatus} :
    convertAppStatus strings app = some status ↔ Shows strings app status := by
  constructor
  · intro converted
    obtain ⟨aidPtr, readAid, converted⟩ := Option.bind_eq_some_iff.mp converted
    obtain ⟨appLabelPtr, readLabel, converted⟩ := Option.bind_eq_some_iff.mp converted
    cases converted
    exact ⟨rfl, rfl, rfl, convertCharPtrToHidlString_eq_some.mp readAid,
      convertCharPtrToHidlString_eq_some.mp readLabel, rfl, rfl, rfl⟩
  · intro shows
    obtain ⟨appType, appState, persoSubstate, aidPtr, appLabelPtr, pin1Replaced, pin1, pin2⟩ :=
      status
    obtain ⟨rfl, rfl, rfl, readAid, readLabel, rfl, rfl, rfl⟩ := shows
    simp only [convertAppStatus, convertCharPtrToHidlString_eq_some.mpr readAid,
      convertCharPtrToHidlString_eq_some.mpr readLabel, Option.bind_eq_bind, Option.bind_some]

/-- A pointer of the application leads to memory that cannot be read. -/
def Dangles (strings : Strings) (app : RIL_AppStatus_AOSP_Compat) : Prop :=
  (app.aid_ptr ≠ 0 ∧ strings app.aid_ptr = none) ∨
    (app.app_label_ptr ≠ 0 ∧ strings app.app_label_ptr = none)

theorem convertAppStatus_eq_none {strings : Strings} {app : RIL_AppStatus_AOSP_Compat} :
    convertAppStatus strings app = none ↔ Dangles strings app := by
  unfold convertAppStatus Dangles
  rw [← convertCharPtrToHidlString_eq_none, ← convertCharPtrToHidlString_eq_none]
  cases convertCharPtrToHidlString strings app.aid_ptr with
  | none => simp
  | some aidPtr =>
    cases convertCharPtrToHidlString strings app.app_label_ptr <;> simp

theorem mapM_eq_some {α β : Type} {f : α → Option β} {list : List α} {results : List β} :
    list.mapM f = some results ↔ List.Forall₂ (fun a b => f a = some b) list results := by
  induction list generalizing results with
  | nil => simp [List.forall₂_nil_left_iff, eq_comm]
  | cons head tail ih =>
    rw [List.mapM_cons, List.forall₂_cons_left_iff]
    simp only [Option.bind_eq_bind, Option.bind_eq_some_iff, ih, Option.pure_def,
      Option.some.injEq]
    constructor
    · rintro ⟨b, first, rest, others, rfl⟩
      exact ⟨b, rest, first, others, rfl⟩
    · rintro ⟨b, rest, first, others, rfl⟩
      exact ⟨b, first, rest, others, rfl⟩

theorem mapM_eq_none {α β : Type} {f : α → Option β} {list : List α} :
    list.mapM f = none ↔ ∃ a ∈ list, f a = none := by
  induction list with
  | nil => simp
  | cons head tail ih =>
    rw [List.mapM_cons, List.exists_mem_cons_iff, ← ih]
    cases f head with
    | none => simp
    | some b => cases tail.mapM f <;> simp

/-- The memory of a response is a card in one of the two layouts, with so many
applications as its header says. -/
inductive Lays (response : Response) :
    RIL_CardStatus_Header_Compat → List RIL_AppStatus_AOSP_Compat → Prop where
  | aosp (card : RIL_CardStatus_v6_AOSP_Compat) (count : Nat) :
    response.responseLen = aospSize →
    response.words = (Layouts.card Layouts.aospApp).write card →
    card.header.num_applications.toInt = count → count ≤ RIL_CARD_MAX_APPS →
    Lays response card.header (card.applications.toList.take count)
  | samsung (card : RIL_CardStatus_v6) (count : Nat) :
    response.responseLen = samsungSize →
    response.words = (Layouts.card Layouts.app).write card →
    card.header.num_applications.toInt = count → count ≤ RIL_CARD_MAX_APPS →
    Lays response card.header
      ((card.applications.toList.take count).map RIL_AppStatus.toRIL_AppStatus_AOSP_Compat)

/-- What the framework is told of a card. -/
structure Reports (strings : Strings) (header : RIL_CardStatus_Header_Compat)
    (used : List RIL_AppStatus_AOSP_Compat) (card : CardStatus) : Prop where
  cardState : card.cardState = header.card_state
  universalPinState : card.universalPinState = header.universal_pin_state
  gsmUmts : card.gsmUmtsSubscriptionAppIndex = header.gsm_umts_subscription_app_index
  cdma : card.cdmaSubscriptionAppIndex = header.cdma_subscription_app_index
  ims : card.imsSubscriptionAppIndex = header.ims_subscription_app_index
  applications : List.Forall₂ (Shows strings) used card.applications

/-- Both layouts begin with the header. -/
theorem read_header {App : Type} (app : Layout App) (card : CardLayout App) :
    Layouts.header.read ((Layouts.card app).write card) = some card.header :=
  Layouts.header.read_write card.header ((app.array RIL_CARD_MAX_APPS).write card.applications)

theorem convertApplications_eq {App : Type} (strings : Strings) (app : Layout App)
    (common : App → RIL_AppStatus_AOSP_Compat) (card : CardLayout App) (count : Nat) :
    convertApplications strings app common ((Layouts.card app).write card) count =
      ((card.applications.toList.take count).map common).mapM (convertAppStatus strings) := by
  have read : (Layouts.card app).read ((Layouts.card app).write card) = some card := by
    rw [← List.append_nil ((Layouts.card app).write card)]
    exact (Layouts.card app).read_write card []
  rw [convertApplications, read, List.mapM_map]
  rfl

/-- The card of a header and its applications. -/
def toCardStatus (header : RIL_CardStatus_Header_Compat) (applications : List AppStatus) :
    CardStatus where
  cardState := header.card_state
  universalPinState := header.universal_pin_state
  gsmUmtsSubscriptionAppIndex := header.gsm_umts_subscription_app_index
  cdmaSubscriptionAppIndex := header.cdma_subscription_app_index
  imsSubscriptionAppIndex := header.ims_subscription_app_index
  applications := applications

theorem reports_iff {strings : Strings} {header : RIL_CardStatus_Header_Compat}
    {used : List RIL_AppStatus_AOSP_Compat} {card : CardStatus} :
    Reports strings header used card ↔
      ∃ applications, used.mapM (convertAppStatus strings) = some applications ∧
        card = toCardStatus header applications := by
  simp only [mapM_eq_some, convertAppStatus_eq_some]
  constructor
  · intro reports
    obtain ⟨cardState, universalPinState, gsmUmts, cdma, ims, applications⟩ := card
    obtain ⟨rfl, rfl, rfl, rfl, rfl, shown⟩ := reports
    exact ⟨applications, shown, rfl⟩
  · rintro ⟨applications, shown, rfl⟩
    exact ⟨rfl, rfl, rfl, rfl, rfl, shown⟩

section Answer
variable (strings : Strings) (serial : Word) (responseType : Nat) (e : Word) {response : Response}

theorem answer_of_lays {header : RIL_CardStatus_Header_Compat}
    {used : List RIL_AppStatus_AOSP_Compat} (lays : Lays response header used) :
    getIccCardStatusResponse strings serial responseType e (some response) =
      (used.mapM (convertAppStatus strings)).map fun applications =>
        (populateResponseInfo serial responseType e, toCardStatus header applications) := by
  have other : samsungSize ≠ aospSize := by decide
  cases lays with
  | aosp card count size written counted fits =>
    have inRange : ¬ ((count : Int) < 0 ∨ (RIL_CARD_MAX_APPS : Int) < count) := by omega
    simp only [getIccCardStatusResponse, size, written, read_header, counted, inRange, if_false,
      if_true, ne_eq, not_true_eq_false, false_and, Option.bind_eq_bind, Option.bind_some,
      convertApplications_eq, Int.toNat_natCast, List.map_id]
    cases (card.applications.toList.take count).mapM (convertAppStatus strings) <;> rfl
  | samsung card count size written counted fits =>
    have inRange : ¬ ((count : Int) < 0 ∨ (RIL_CARD_MAX_APPS : Int) < count) := by omega
    simp only [getIccCardStatusResponse, size, written, read_header, counted, inRange, if_false,
      other, ne_eq, not_true_eq_false, and_false, Option.bind_eq_bind, Option.bind_some,
      convertApplications_eq, Int.toNat_natCast]
    cases ((card.applications.toList.take count).map
      RIL_AppStatus.toRIL_AppStatus_AOSP_Compat).mapM (convertAppStatus strings) <;> rfl

/-- Memory of the size of a layout is a card in this layout. -/
theorem exists_card {App : Type} (app : Layout App)
    (size : response.responseLen = 4 * (Layouts.card app).size) :
    ∃ card, response.words = (Layouts.card app).write card := by
  have whole : response.words.length = (Layouts.card app).size := by
    rw [response.whole, size, Nat.mul_div_cancel_left _ (by decide)]
  obtain ⟨card, read⟩ :=
    Option.isSome_iff_exists.mp ((Layouts.card app).read_inside response.words whole.ge)
  exact ⟨card, (Layout.read_eq_some_iff whole).mp read⟩

/-- The number of applications in a header that is not refused. -/
theorem count_of_inRange {header : RIL_CardStatus_Header_Compat}
    (inRange : ¬ (header.num_applications.toInt < 0 ∨
      (RIL_CARD_MAX_APPS : Int) < header.num_applications.toInt)) :
    ∃ count : Nat, header.num_applications.toInt = count ∧ count ≤ RIL_CARD_MAX_APPS :=
  ⟨header.num_applications.toInt.toNat, by omega, by omega⟩

theorem answer_of_not_lays (noCard : ¬ ∃ header used, Lays response header used) :
    getIccCardStatusResponse strings serial responseType e (some response) =
      some ((populateResponseInfo serial responseType e).invalid e, CardStatus.empty) := by
  unfold getIccCardStatusResponse
  by_cases aosp : response.responseLen = aospSize
  · obtain ⟨card, written⟩ := exists_card Layouts.aospApp aosp
    have refused : card.header.num_applications.toInt < 0 ∨
        (RIL_CARD_MAX_APPS : Int) < card.header.num_applications.toInt := by
      by_contra inRange
      obtain ⟨count, counted, fits⟩ := count_of_inRange inRange
      exact noCard ⟨_, _, .aosp card count aosp written counted fits⟩
    simp only [aosp, written, read_header, refused, ne_eq, not_true_eq_false, false_and, if_false,
      if_true, Option.bind_eq_bind, Option.bind_some]
  · by_cases samsung : response.responseLen = samsungSize
    · obtain ⟨card, written⟩ := exists_card Layouts.app samsung
      have refused : card.header.num_applications.toInt < 0 ∨
          (RIL_CARD_MAX_APPS : Int) < card.header.num_applications.toInt := by
        by_contra inRange
        obtain ⟨count, counted, fits⟩ := count_of_inRange inRange
        exact noCard ⟨_, _, .samsung card count samsung written counted fits⟩
      simp only [samsung, written, read_header, refused, ne_eq, not_true_eq_false, and_false,
        if_false, if_true, Option.bind_eq_bind, Option.bind_some]
    · exact if_pos ⟨aosp, samsung⟩

end Answer

theorem invalid_ne (serial : Word) (responseType : Nat) :
    (populateResponseInfo serial responseType RIL_E_SUCCESS).invalid RIL_E_SUCCESS ≠
      populateResponseInfo serial responseType RIL_E_SUCCESS := by
  intro same
  have error : INVALID_RESPONSE = RIL_E_SUCCESS := congrArg RadioResponseInfo.error same
  exact absurd error (by decide)

/-- The answer to a successful request is the card if and only if the memory is this card
in one of the layouts. It is an error if and only if there is no card in the memory, and
only a text of an application in use can lie where it cannot be read. -/
theorem card_is_reported_iff_laid_out (strings : Strings) (serial : Word) (responseType : Nat)
    (response : Response) :
    let answer :=
      getIccCardStatusResponse strings serial responseType RIL_E_SUCCESS (some response)
    let responseInfo := populateResponseInfo serial responseType RIL_E_SUCCESS
    (∀ card, answer = some (responseInfo, card) ↔
      ∃ header used, Lays response header used ∧ Reports strings header used card) ∧
    (answer = some (responseInfo.invalid RIL_E_SUCCESS, CardStatus.empty) ↔
      ¬ ∃ header used, Lays response header used) ∧
    (answer = none ↔
      ∃ header used, Lays response header used ∧ ∃ app ∈ used, Dangles strings app) := by
  intro answer responseInfo
  have told : ∀ header used, Lays response header used →
      answer = (used.mapM (convertAppStatus strings)).map fun applications =>
        (responseInfo, toCardStatus header applications) :=
    fun header used lays => answer_of_lays strings serial responseType RIL_E_SUCCESS lays
  have refused : (¬ ∃ header used, Lays response header used) →
      answer = some (responseInfo.invalid RIL_E_SUCCESS, CardStatus.empty) :=
    answer_of_not_lays strings serial responseType RIL_E_SUCCESS
  refine ⟨fun card => ⟨?_, ?_⟩, ⟨?_, refused⟩, ?_, ?_⟩
  · intro answered
    by_cases lays : ∃ header used, Lays response header used
    · obtain ⟨header, used, lays⟩ := lays
      rw [told header used lays] at answered
      obtain ⟨applications, shown, same⟩ := Option.map_eq_some_iff.mp answered
      exact ⟨header, used, lays,
        reports_iff.mpr ⟨applications, shown, (congrArg Prod.snd same).symm⟩⟩
    · have same := Option.some.inj ((refused lays).symm.trans answered)
      exact absurd (congrArg Prod.fst same) (invalid_ne serial responseType)
  · rintro ⟨header, used, lays, reports⟩
    obtain ⟨applications, shown, rfl⟩ := reports_iff.mp reports
    rw [told header used lays, shown]
    rfl
  · rintro answered ⟨header, used, lays⟩
    rw [told header used lays] at answered
    obtain ⟨applications, _, same⟩ := Option.map_eq_some_iff.mp answered
    exact invalid_ne serial responseType (congrArg Prod.fst same).symm
  · intro unanswered
    by_cases lays : ∃ header used, Lays response header used
    · obtain ⟨header, used, lays⟩ := lays
      rw [told header used lays, Option.map_eq_none_iff, mapM_eq_none] at unanswered
      obtain ⟨app, inUse, failed⟩ := unanswered
      exact ⟨header, used, lays, app, inUse, convertAppStatus_eq_none.mp failed⟩
    · exact absurd ((refused lays).symm.trans unanswered) (by simp)
  · rintro ⟨header, used, lays, app, inUse, dangles⟩
    rw [told header used lays, Option.map_eq_none_iff, mapM_eq_none]
    exact ⟨app, inUse, convertAppStatus_eq_none.mpr dangles⟩

end Msm8917Common.RilResponse
