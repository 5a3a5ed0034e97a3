import Msm8917Common.CText
import Msm8917Common.GnssConfig

/-! `GnssAdapter::setSuplHostServer`: the URL of the SUPL server is printed into a buffer
of fixed size and handed over with the length that the printing returned. -/
namespace Msm8917Common.Gnss.SuplServer
open CText

def MAX_URL_LEN : Nat := 256

/-- A call of `LocApiBase::setServer`: the buffer and the length. -/
structure SetServer where
  url : Text
  len : Int

/-- What a call of `setSuplHostServer` comes to. -/
structure Outcome where
  mServerUrl : Text
  locErr : Location.LocationError
  call : Option SetServer

/-- The server is null, empty or "NONE", whatever the case. -/
def noServer : Option Text → Bool
  | none => true
  | some server => (cString server).isEmpty || strncasecmp 5 "NONE".toList (cString server)

/-- What `"%s:%u"` prints. -/
def hostAndPort (server : Option Text) (port : Int) : Text :=
  cString (server.getD []) ++ ':' :: Nat.toDigits 10 port.toNat

/-- `serverUrl` and `length`. The buffer is all zeros before anything is printed. -/
def serverUrl (server : Option Text) (port : Int) : Text × Int :=
  let zeros := List.replicate MAX_URL_LEN '\x00'
  if noServer server then (zeros, 0)
  else if port > 0 then
    let printed := snprintf MAX_URL_LEN (hostAndPort server port)
    (printed ++ zeros.drop printed.length, snprintfResult (hostAndPort server port))
  else (zeros, -1)

/-- `answer` is what `setServer` returns if it is called. -/
def setSuplHostServer (AGPS_CONFIG_INJECT : Bool) (server : Option Text) (port : Int)
    (answer : Location.LocationError) (mServerUrl : Text) : Outcome :=
  if AGPS_CONFIG_INJECT then
    let (serverUrl, length) := serverUrl server port
    if 0 ≤ length ∧ ¬ strncasecmp MAX_URL_LEN (cString mServerUrl) serverUrl then
      ⟨cString serverUrl, answer, some ⟨serverUrl, length⟩⟩
    else ⟨mServerUrl, .invalidParameter, none⟩
  else ⟨mServerUrl, .success, none⟩

/-- The URL ends within the buffer, the length is its length, and it is empty or all of
the host and the port. -/
structure SetServer.Whole (call : SetServer) (server : Option Text) (port : Int) : Prop where
  terminated : ∃ i < MAX_URL_LEN, call.url[i]? = some '\x00'
  length : call.len = (cString call.url).length
  complete : cString call.url = [] ∨ cString call.url = hostAndPort server port

/-- Each call of `setServer` is whole, and after one that succeeded the same host and port
bring no other. -/
structure HandedOverWhole (AGPS_CONFIG_INJECT : Bool) (server : Option Text) (port : Int)
    (answer : Location.LocationError) (mServerUrl : Text) : Prop where
  whole : ∀ call ∈ (setSuplHostServer AGPS_CONFIG_INJECT server port answer mServerUrl).call,
    call.Whole server port
  once : (setSuplHostServer AGPS_CONFIG_INJECT server port answer mServerUrl).call.isSome →
    answer = .success → ∀ again, (setSuplHostServer AGPS_CONFIG_INJECT server port again
      (setSuplHostServer AGPS_CONFIG_INJECT server port answer mServerUrl).mServerUrl).call = none

/-- The host and the port can be printed but do not fit into the buffer, and what fits of
them is not what the adapter has already. -/
structure CutOff (AGPS_CONFIG_INJECT : Bool) (server : Option Text) (port : Int)
    (mServerUrl : Text) : Prop where
  injected : AGPS_CONFIG_INJECT = true
  named : noServer server = false
  positive : 0 < port
  long : MAX_URL_LEN ≤ (hostAndPort server port).length
  printable : (hostAndPort server port).length ≤ INT_MAX
  new : strncasecmp MAX_URL_LEN (cString mServerUrl)
    ((hostAndPort server port).take (MAX_URL_LEN - 1)) = false

variable {AGPS_CONFIG_INJECT : Bool} {server : Option Text} {port : Int}
  {answer : Location.LocationError} {mServerUrl : Text}

theorem zero_notMem_hostAndPort : '\x00' ∉ hostAndPort server port := by
  simp only [hostAndPort, List.mem_append, List.mem_cons, not_or]
  refine ⟨zero_notMem_cString _, by decide, fun member => ?_⟩
  have digit := Nat.isDigit_of_mem_toDigits (by decide) (Nat.le_refl 10) member
  exact absurd digit (by decide)

/-! The buffer -/

theorem serverUrl_none (named : noServer server = true) :
    serverUrl server port = (List.replicate MAX_URL_LEN '\x00', 0) := if_pos named

theorem serverUrl_invalid (named : noServer server = false) (negative : ¬ 0 < port) :
    (serverUrl server port).2 = -1 := by
  simp [serverUrl, named, negative]

theorem serverUrl_length (named : noServer server = false) (positive : 0 < port) :
    (serverUrl server port).2 = snprintfResult (hostAndPort server port) := by
  simp [serverUrl, named, positive]

theorem serverUrl_printed (named : noServer server = false) (positive : 0 < port) :
    0 ≤ (serverUrl server port).2 ↔ (hostAndPort server port).length ≤ INT_MAX := by
  rw [serverUrl_length named positive, snprintfResult]
  split
  · next printable => exact iff_of_true (Int.natCast_nonneg _) printable
  · next unprintable => exact iff_of_false (by decide) unprintable

/-- The buffer holds as much of the host and the port as fits. -/
theorem cString_serverUrl (named : noServer server = false) (positive : 0 < port) :
    cString (serverUrl server port).1 = (hostAndPort server port).take (MAX_URL_LEN - 1) := by
  have noZero : '\x00' ∉ (hostAndPort server port).take (MAX_URL_LEN - 1) := fun member =>
    zero_notMem_hostAndPort (List.mem_of_mem_take member)
  simp only [serverUrl, named, Bool.false_eq_true, if_false, if_pos positive,
    snprintf_of_pos (by decide : MAX_URL_LEN ≠ 0), List.append_assoc, List.singleton_append]
  exact cString_terminated noZero _

theorem terminated_serverUrl (server : Option Text) (port : Int) :
    ∃ i < MAX_URL_LEN, (serverUrl server port).1[i]? = some '\x00' := by
  unfold serverUrl
  simp only
  split
  · exact ⟨0, by decide, by decide⟩
  · split
    · refine ⟨min (MAX_URL_LEN - 1) (hostAndPort server port).length, ?_, ?_⟩
      · exact Nat.lt_of_le_of_lt (Nat.min_le_left _ _) (by decide)
      · simp only [snprintf_of_pos (by decide : MAX_URL_LEN ≠ 0), List.append_assoc]
        rw [List.getElem?_append_right (Nat.le_of_eq List.length_take), List.length_take,
          Nat.sub_self]
        rfl
    · exact ⟨0, by decide, by decide⟩

/-! The call -/

theorem call_eq_some {call : SetServer} :
    (setSuplHostServer AGPS_CONFIG_INJECT server port answer mServerUrl).call = some call ↔
      AGPS_CONFIG_INJECT = true ∧ 0 ≤ (serverUrl server port).2 ∧
        strncasecmp MAX_URL_LEN (cString mServerUrl) (serverUrl server port).1 = false ∧
        call = ⟨(serverUrl server port).1, (serverUrl server port).2⟩ := by
  unfold setSuplHostServer
  cases AGPS_CONFIG_INJECT with
  | false => simp
  | true =>
    simp only [if_true, true_and]
    split
    · next called =>
      simp only [called.1, eq_false_of_ne_true called.2, true_and, Option.some.injEq]
      exact eq_comm
    · next silent =>
      simp only [false_iff, reduceCtorEq]
      rintro ⟨valid, new, _⟩
      exact silent ⟨valid, by rw [new]; exact Bool.false_ne_true⟩

/-- What was handed over is found to be the same the next time. -/
theorem call_once (called : (setSuplHostServer AGPS_CONFIG_INJECT server port answer
      mServerUrl).call.isSome) (again : Location.LocationError) :
    (setSuplHostServer AGPS_CONFIG_INJECT server port again
      (setSuplHostServer AGPS_CONFIG_INJECT server port answer mServerUrl).mServerUrl).call =
        none := by
  obtain ⟨call, here⟩ := Option.isSome_iff_exists.mp called
  obtain ⟨injected, valid, new, -⟩ := call_eq_some.mp here
  have stored : (setSuplHostServer AGPS_CONFIG_INJECT server port answer mServerUrl).mServerUrl =
      cString (serverUrl server port).1 := by
    simp [setSuplHostServer, injected, valid, new]
  rw [stored, Option.eq_none_iff_forall_ne_some]
  intro other second
  obtain ⟨-, -, differs, -⟩ := call_eq_some.mp second
  rw [cString_of_notMem (zero_notMem_cString _), ← strncasecmp_cString,
    strncasecmp_self] at differs
  cases differs

/-- A call is whole unless the host and the port are longer than the buffer. -/
theorem whole_iff (valid : 0 ≤ (serverUrl server port).2) :
    SetServer.Whole ⟨(serverUrl server port).1, (serverUrl server port).2⟩ server port ↔
      ¬ (noServer server = false ∧ 0 < port ∧ MAX_URL_LEN ≤ (hostAndPort server port).length) := by
  cases named : noServer server with
  | true =>
    have none : serverUrl server port = (List.replicate MAX_URL_LEN '\x00', 0) :=
      serverUrl_none named
    have empty : cString (serverUrl server port).1 = [] := by
      rw [none]
      decide
    refine ⟨fun _ long => Bool.noConfusion long.1, fun _ => ?_⟩
    refine ⟨terminated_serverUrl server port, ?_, .inl empty⟩
    rw [empty, none]
    rfl
  | false =>
    have positive : 0 < port := by
      by_contra negative
      rw [serverUrl_invalid named negative] at valid
      exact absurd valid (by decide)
    have text := cString_serverUrl named positive
    have printable := (serverUrl_printed named positive).mp valid
    have length := serverUrl_length named positive
    rw [snprintfResult, if_pos printable] at length
    constructor
    · rintro ⟨-, same, -⟩ ⟨-, -, long⟩
      rw [length, text, List.length_take, Int.natCast_inj] at same
      exact absurd same (by unfold MAX_URL_LEN at long ⊢; omega)
    · intro fits
      have short : (hostAndPort server port).length < MAX_URL_LEN :=
        Nat.not_le.mp fun long => fits ⟨rfl, positive, long⟩
      have all : cString (serverUrl server port).1 = hostAndPort server port := by
        rw [text, List.take_of_length_le (Nat.le_sub_one_of_lt short)]
      exact ⟨terminated_serverUrl server port, by rw [all, length], .inr all⟩

/-- The server is handed over whole, and once, exactly when its URL is not cut off. -/
theorem handed_over_whole_iff (AGPS_CONFIG_INJECT : Bool) (server : Option Text) (port : Int)
    (answer : Location.LocationError) (mServerUrl : Text) :
    HandedOverWhole AGPS_CONFIG_INJECT server port answer mServerUrl ↔
      ¬ CutOff AGPS_CONFIG_INJECT server port mServerUrl := by
  constructor
  · rintro ⟨whole, -⟩ ⟨injected, named, positive, long, printable, new⟩
    have valid := (serverUrl_printed named positive).mpr printable
    have differs :
        strncasecmp MAX_URL_LEN (cString mServerUrl) (serverUrl server port).1 = false := by
      rw [← strncasecmp_cString, cString_serverUrl named positive]
      exact new
    have called := whole _ (call_eq_some.mpr ⟨injected, valid, differs, rfl⟩)
    exact (whole_iff valid).mp called ⟨named, positive, long⟩
  · intro fits
    refine ⟨fun call here => ?_, fun called _ => call_once called⟩
    obtain ⟨injected, valid, differs, rfl⟩ := call_eq_some.mp here
    refine (whole_iff valid).mpr fun ⟨named, positive, long⟩ => fits ?_
    refine ⟨injected, named, positive, long, (serverUrl_printed named positive).mp valid, ?_⟩
    rw [← strncasecmp_cString, cString_serverUrl named positive] at differs
    exact differs

/-- With a host of 256 characters the length is 261, and the URL in the buffer has 255. -/
theorem a_long_host_is_cut_off :
    ¬ ∀ AGPS_CONFIG_INJECT server port answer mServerUrl,
      HandedOverWhole AGPS_CONFIG_INJECT server port answer mServerUrl := by
  intro all
  let server := some (List.replicate 256 'h')
  have named : noServer server = false := rfl
  have length : (hostAndPort server 7275).length = 261 := by
    have host : cString (List.replicate 256 'h') = List.replicate 256 'h' :=
      cString_of_notMem fun member => absurd (List.eq_of_mem_replicate member) (by decide)
    rw [hostAndPort, Option.getD_some, host, List.length_append, List.length_replicate]
    rfl
  have valid : 0 ≤ (serverUrl server 7275).2 :=
    (serverUrl_printed named (by decide)).mpr (by rw [length]; decide)
  have whole := (all true server 7275 .success [':']).whole _
    (call_eq_some.mpr ⟨rfl, valid, rfl, rfl⟩)
  exact (whole_iff valid).mp whole ⟨named, by decide, by rw [length]; decide⟩

/-! The same call as an item of a configuration, where a string is what stands before its
end. -/

section configuration
open Location.ControlConfig (ConfigCache ConfigCall sameIgnoringCase suplUrl)

def SetServer.configCall (call : SetServer) : ConfigCall :=
  .setServerUrl (cString call.url) call.len.toNat

theorem sameIgnoringCase_eq {count : Nat} {left right : Text} (leftEnds : '\x00' ∉ left)
    (rightEnds : '\x00' ∉ right) (within : left.length < count ∨ right.length < count) :
    sameIgnoringCase left right = strncasecmp count left right := by
  rw [Bool.eq_iff_iff, strncasecmp_iff leftEnds rightEnds within]
  exact decide_eq_true_iff

theorem noServer_eq {server : Option Text} (ends : ∀ text ∈ server, '\x00' ∉ text) :
    noServer server =
      ((server.getD []).isEmpty || sameIgnoringCase "NONE".toList (server.getD [])) := by
  cases server with
  | none => rfl
  | some text =>
    have read := cString_of_notMem (ends text rfl)
    rw [noServer, read, Option.getD_some,
      sameIgnoringCase_eq (by decide) (ends text rfl) (.inl (by decide : _ < 5))]

theorem cString_getD {server : Option Text} (ends : ∀ text ∈ server, '\x00' ∉ text) :
    cString (server.getD []) = server.getD [] := by
  cases server with
  | none => rfl
  | some text => exact cString_of_notMem (ends text rfl)

/-- A port of 2³¹ and more is negative as an `int`. -/
theorem port_pos_iff (port : UInt32) :
    0 < port.toBitVec.toInt ↔ 0 < port ∧ port < 2147483648 := by
  rw [BitVec.toInt_eq_toNat_cond, UInt32.lt_iff_toNat_lt, UInt32.lt_iff_toNat_lt]
  simp only [UInt32.toNat_toBitVec, UInt32.toNat_ofNat]
  have bound := port.toNat_lt
  split <;> omega

/-- The URL and the length of the configuration's item are those in the buffer. -/
theorem suplUrl_eq {server : Option Text} {port : UInt32} (ends : ∀ text ∈ server, '\x00' ∉ text) :
    suplUrl server port =
      if 0 ≤ (serverUrl server port.toBitVec.toInt).2 then
        some (cString (serverUrl server port.toBitVec.toInt).1,
          (serverUrl server port.toBitVec.toInt).2.toNat)
      else none := by
  unfold suplUrl
  dsimp only
  rw [← noServer_eq ends]
  cases named : noServer server with
  | true =>
    rw [serverUrl_none named]
    rfl
  | false =>
    rw [if_neg Bool.false_ne_true]
    by_cases positive : 0 < port.toBitVec.toInt
    · have isPort := (port_pos_iff port).mp positive
      have small := UInt32.lt_iff_toNat_lt.mp isPort.2
      have number : port.toBitVec.toInt = port.toNat :=
        BitVec.toInt_eq_toNat_of_lt (Nat.mul_lt_mul_of_pos_left small (by decide))
      have printed : hostAndPort server port.toBitVec.toInt =
          server.getD [] ++ ':' :: (toString port.toNat).toList := by
        rw [hostAndPort, cString_getD ends, number]
        simp [Nat.repr]
      rw [if_pos isPort, ← printed, cString_serverUrl named positive,
        serverUrl_length named positive, snprintfResult]
      by_cases printable : (hostAndPort server port.toBitVec.toInt).length ≤ INT_MAX
      · have fits : (hostAndPort server port.toBitVec.toInt).length < 2147483648 :=
          Nat.lt_succ_of_le printable
        rw [if_pos fits, if_pos printable, if_pos (Int.natCast_nonneg _)]
        rfl
      · have long : ¬ (hostAndPort server port.toBitVec.toInt).length < 2147483648 :=
          fun fits => printable (Nat.le_of_lt_succ fits)
        rw [if_neg long, if_neg printable]
        rfl
    · rw [if_neg (mt (port_pos_iff port).mpr positive), serverUrl_invalid named positive]
      rfl

theorem short_serverUrl (server : Option Text) (port : Int) :
    (cString (serverUrl server port).1).length < MAX_URL_LEN := by
  obtain ⟨i, within, ends⟩ := terminated_serverUrl server port
  exact Nat.lt_of_le_of_lt (length_cString_le ends) within

/-- The item of a configuration is this call, for strings without what ends them. -/
theorem config_item_is_the_call (cache : ConfigCache) (answer : ConfigCall → Location.LocationError)
    {server : Option Text} (port : UInt32) (ends : ∀ text ∈ server, '\x00' ∉ text)
    (cachedEnds : '\x00' ∉ cache.mServerUrl) :
    let outcome := setSuplHostServer cache.mGps_conf.AGPS_CONFIG_INJECT server port.toBitVec.toInt
      (answer (SetServer.configCall ⟨(serverUrl server port.toBitVec.toInt).1,
        (serverUrl server port.toBitVec.toInt).2⟩)) cache.mServerUrl
    Location.ControlConfig.setSuplHostServer cache answer server port =
      ⟨{ cache with mServerUrl := outcome.mServerUrl },
        (outcome.call.map SetServer.configCall).toList, outcome.locErr⟩ := by
  intro outcome
  simp only [Location.ControlConfig.setSuplHostServer, suplUrl_eq ends]
  cases inject : cache.mGps_conf.AGPS_CONFIG_INJECT with
  | false => simp [outcome, setSuplHostServer, inject]
  | true =>
    by_cases valid : 0 ≤ (serverUrl server port.toBitVec.toInt).2
    · have same : sameIgnoringCase cache.mServerUrl
            (cString (serverUrl server port.toBitVec.toInt).1) =
          strncasecmp MAX_URL_LEN (cString cache.mServerUrl)
            (serverUrl server port.toBitVec.toInt).1 := by
        rw [sameIgnoringCase_eq cachedEnds (zero_notMem_cString _) (.inr (short_serverUrl _ _)),
          strncasecmp_cString, cString_of_notMem cachedEnds]
      cases found : strncasecmp MAX_URL_LEN (cString cache.mServerUrl)
          (serverUrl server port.toBitVec.toInt).1 with
      | true => simp [outcome, setSuplHostServer, inject, valid, found, same]
      | false => simp [outcome, setSuplHostServer, SetServer.configCall, inject, valid, found, same]
    · simp [outcome, setSuplHostServer, inject, valid]

end configuration

end Msm8917Common.Gnss.SuplServer
