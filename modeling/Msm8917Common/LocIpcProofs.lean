import Msm8917Common.LocIpc
import Msm8917Common.Runs

/-! The framing of `LocIpc` as a round trip. Nothing ends the header that the receiver
reads in its buffer, and nothing clears the buffer, so what the last message left there
can be read on. -/
namespace Msm8917Common.LocUtil.LocIpcProofs
open Runs

/-- The receiver, and the payloads that were sent to it. -/
structure IpcWorld where
  ipc : LocIpc
  sent : List (List UInt8)

namespace IpcWorld

def start : IpcWorld := ⟨.start, []⟩

/-- The socket keeps every datagram and their order, so the loop may as well read them
as they are sent. -/
def step (world : IpcWorld) (payload : Payload) : IpcWorld where
  ipc := (sendData payload.data).foldl LocIpc.recv world.ipc
  sent := world.sent ++ [payload.data]

end IpcWorld

/-- What the bytes that a message left in the buffer must not do to the next: complete a
short payload to one of the messages that the loop keeps for itself, or lengthen the
number in the header of a long one. -/
def Legible (left payload : List UInt8) : Prop :=
  if payload.length ≤ LOC_MSG_BUF_LEN then
    ¬ LOC_MSG_ABORT <+: payload ++ (resize left LOC_MSG_BUF_LEN).drop payload.length ∧
      ¬ LOC_MSG_HEAD <+: payload ++ (resize left LOC_MSG_BUF_LEN).drop payload.length
  else
    ∀ byte, (resize left LOC_MSG_BUF_LEN)[(header payload.length).length]? = some byte →
      isDigit byte = false

/-- The payload before, or nothing, leaves the buffer legible. -/
def LegibleAfterLast (world : IpcWorld) (payload : Payload) : Prop :=
  Legible (world.sent.getLast?.getD []) payload.data

/-- The loop waits for a new message, has delivered all that was sent, and still holds
the last of it. -/
structure Waiting (world : IpcWorld) : Prop where
  running : world.ipc.running = true
  between : world.ipc.reading = none
  delivered : world.ipc.received = world.sent
  holds : world.ipc.msg = world.sent.getLast?.getD []

section Buffer
variable {msg part : List UInt8}

@[simp] theorem resize_length (msg : List UInt8) (length : Nat) :
    (resize msg length).length = length := by
  simp only [resize, List.length_append, List.length_take, List.length_replicate]
  omega

theorem resize_zero (msg : List UInt8) : resize msg 0 = [] := by
  simp [resize]

theorem overwrite_start (msg part : List UInt8) :
    overwrite msg 0 part = part ++ msg.drop part.length := by
  simp [overwrite]

theorem resize_of_prefix (part rest : List UInt8) : resize (part ++ rest) part.length = part := by
  simp [resize]

theorem bytes_length (text : List Char) : (bytes text).length = text.length :=
  List.length_map _

end Buffer

section Header

private theorem char_toNat_of_digit {char : Char} (digit : char.isDigit = true) :
    char.toNat.toUInt8.toNat = char.toNat := by
  have bounds := Char.isDigit_iff_toNat.mp digit
  have upper : char.toNat ≤ 57 := bounds.2
  simp only [Nat.toUInt8, UInt8.toNat_ofNat']
  exact Nat.mod_eq_of_lt (by omega)

private theorem digit_of_mem {length : Nat} {char : Char}
    (member : char ∈ Nat.toDigits 10 length) : char.isDigit = true :=
  Nat.isDigit_of_mem_toDigits (by decide) (Nat.le_refl 10) member

theorem isDigit_of_mem_bytes {length : Nat} {byte : UInt8}
    (member : byte ∈ bytes (Nat.toDigits 10 length)) : isDigit byte = true := by
  obtain ⟨char, isIn, rfl⟩ := List.mem_map.mp member
  have digit := digit_of_mem isIn
  have bounds := Char.isDigit_iff_toNat.mp digit
  simp only [isDigit, char_toNat_of_digit digit, Bool.and_eq_true, decide_eq_true_eq]
  exact bounds

private theorem chars_of_bytes (length : Nat) :
    (bytes (Nat.toDigits 10 length)).map (fun byte => Char.ofNat byte.toNat) =
      Nat.toDigits 10 length := by
  simp only [bytes, List.map_map]
  refine (List.map_congr_left fun char member => ?_).trans (List.map_id _)
  simp only [Function.comp, char_toNat_of_digit (digit_of_mem member), Char.ofNat_toNat, id]

/-- Digits that follow a number make it longer. -/
theorem unsignedValue_append (length : Nat) (more : List UInt8) :
    unsignedValue (bytes (Nat.toDigits 10 length) ++ more) =
      10 ^ more.length * length + unsignedValue more := by
  simp only [unsignedValue, List.map_append, chars_of_bytes, Nat.ofDigitChars_append]
  rw [Nat.ofDigitChars_toDigits (by decide) (Nat.le_refl 10),
    Nat.ofDigitChars_eq_ofDigitChars_zero, List.length_map]

private theorem not_space_of_digit {byte : UInt8} (digit : isDigit byte = true) :
    isSpace byte = false ∧ byte ≠ 43 ∧ byte ≠ 45 := by
  simp only [isDigit, Bool.and_eq_true, decide_eq_true_eq] at digit
  refine ⟨?_, ?_, ?_⟩
  · simp only [isSpace, Bool.or_eq_false_iff, Bool.and_eq_false_iff, decide_eq_false_iff_not]
    omega
  · rintro rfl
    exact absurd digit.1 (by decide)
  · rintro rfl
    exact absurd digit.1 (by decide)

/-- What is read of a header is its number, with every digit that follows it. -/
theorem scanSize_header (length : Nat) (rest : List UInt8) :
    scanSize (bytes (Nat.toDigits 10 length) ++ rest) =
      some (min (10 ^ (rest.takeWhile isDigit).length * length +
        unsignedValue (rest.takeWhile isDigit)) SIZE_MAX) := by
  have digits : (bytes (Nat.toDigits 10 length) ++ rest).takeWhile isDigit =
      bytes (Nat.toDigits 10 length) ++ rest.takeWhile isDigit :=
    List.takeWhile_append_of_pos fun _ => isDigit_of_mem_bytes
  rw [← unsignedValue_append, ← digits]
  obtain ⟨first, others, split⟩ : ∃ first others,
      bytes (Nat.toDigits 10 length) = first :: others :=
    List.exists_cons_of_ne_nil fun none => Nat.toDigits_ne_nil (List.map_eq_nil_iff.mp none)
  have digit : isDigit first = true := isDigit_of_mem_bytes (split ▸ List.mem_cons_self)
  obtain ⟨noSpace, noPlus, noMinus⟩ := not_space_of_digit digit
  simp only [split, List.cons_append, scanSize, List.dropWhile_cons, noSpace, Bool.false_eq_true,
    if_false, List.head?_cons, Option.some.injEq, noPlus, noMinus, or_self, List.takeWhile_cons,
    digit, if_true, List.isEmpty_cons]
  split
  next above => rw [Nat.min_eq_right (Nat.le_of_lt above)]
  next within => rw [Nat.min_eq_left (Nat.le_of_not_lt within)]

theorem header_length (length : Nat) :
    (header length).length = 8 + (Nat.toDigits 10 length).length := by
  simp only [header, List.length_append, bytes_length, LOC_MSG_HEAD]
  rfl

private theorem header_fits {length : Nat} (fits : length < 2 ^ 32) :
    (header length).length ≤ LOC_MSG_BUF_LEN := by
  have digits : (Nat.toDigits 10 length).length ≤ 10 :=
    (Nat.length_toDigits_le_iff (by decide) (by decide)).mpr (by omega)
  rw [header_length, LOC_MSG_BUF_LEN]
  omega

/-- A header is no other message that the loop keeps for itself, whatever follows. -/
private theorem header_prefixes (length : Nat) (rest : List UInt8) :
    LOC_MSG_ABORT.isPrefixOf (header length ++ rest) = false ∧
      LOC_MSG_HEAD.isPrefixOf (header length ++ rest) = true := by
  constructor
  · rfl
  · rw [List.isPrefixOf_iff_prefix, header, List.append_assoc]
    exact List.prefix_append _ _

/-- The length that is read of a header, with the bytes that follow it in the buffer. -/
def lengthRead (length : Nat) (rest : List UInt8) : Nat :=
  min (10 ^ (rest.takeWhile isDigit).length * length + unsignedValue (rest.takeWhile isDigit))
    SIZE_MAX

theorem lengthRead_of_no_digit {length : Nat} {rest : List UInt8} (fits : length < 2 ^ 32)
    (ends : ∀ byte, rest.head? = some byte → isDigit byte = false) :
    lengthRead length rest = length := by
  have none : rest.takeWhile isDigit = [] := by
    cases rest with
    | nil => rfl
    | cons byte more => rw [List.takeWhile_cons, ends byte rfl, if_neg Bool.false_ne_true]
  simp only [lengthRead, none, List.length_nil, unsignedValue, List.map_nil,
    Nat.ofDigitChars_nil, SIZE_MAX]
  omega

theorem lengthRead_of_digit {length : Nat} {rest : List UInt8} (fits : length < 2 ^ 32)
    (positive : 0 < length) {byte : UInt8} (follows : rest.head? = some byte)
    (digit : isDigit byte = true) : length < lengthRead length rest := by
  cases rest with
  | nil => cases follows
  | cons first more =>
    cases follows
    simp only [lengthRead, List.takeWhile_cons, digit, if_true, List.length_cons, Nat.pow_succ,
      SIZE_MAX]
    have scaled : length * 10 ≤ 10 ^ (more.takeWhile isDigit).length * 10 * length := by
      have power : 0 < 10 ^ (more.takeWhile isDigit).length := Nat.pow_pos (by decide)
      calc length * 10 = 1 * 10 * length := by omega
        _ ≤ 10 ^ (more.takeWhile isDigit).length * 10 * length :=
          Nat.mul_le_mul_right _ (Nat.mul_le_mul_right _ power)
    omega

end Header

section Receive
variable {ipc : LocIpc} {data : List UInt8}

/-- A datagram that is read as a message of its own is delivered whole. -/
private theorem recv_short (running : ipc.running = true) (between : ipc.reading = none)
    (nonEmpty : data ≠ []) (fits : data.length ≤ LOC_MSG_BUF_LEN)
    (legible : Legible ipc.msg data) :
    ipc.recv data = { ipc with msg := data, received := ipc.received ++ [data] } := by
  rw [Legible, if_pos fits] at legible
  obtain ⟨notAbort, notHead⟩ := legible
  simp only [← List.isPrefixOf_iff_prefix, Bool.not_eq_true] at notAbort notHead
  simp only [LocIpc.recv, running, if_true, between, overwrite_start, resize_length,
    List.take_of_length_le fits, notAbort, notHead, Bool.false_eq_true, if_false,
    resize_of_prefix, List.isEmpty_iff, nonEmpty]

/-- One that is not is never delivered at once. -/
private theorem recv_illegible (running : ipc.running = true) (between : ipc.reading = none)
    (nonEmpty : data ≠ []) (fits : data.length ≤ LOC_MSG_BUF_LEN)
    (illegible : ¬ Legible ipc.msg data) :
    (ipc.recv data).received = ipc.received ∨ (ipc.recv data).received = ipc.received ++ [[]] := by
  rw [Legible, if_pos fits, not_and_or, not_not, not_not, ← List.isPrefixOf_iff_prefix,
    ← List.isPrefixOf_iff_prefix] at illegible
  simp only [LocIpc.recv, running, if_true, between, overwrite_start,
    resize_length, List.take_of_length_le fits, List.isEmpty_iff, nonEmpty, if_false]
  split
  · exact Or.inl rfl
  next notAbort =>
    rw [if_pos (illegible.resolve_left notAbort)]
    split
    · exact Or.inl rfl
    next none =>
      exact Or.inr (by simp only [Nat.eq_zero_of_not_pos none, resize_zero])

private theorem recv_header {length : Nat} {rest : List UInt8} (running : ipc.running = true)
    (between : ipc.reading = none) (positive : 0 < length) (fits : length < 2 ^ 32)
    (left : (resize ipc.msg LOC_MSG_BUF_LEN).drop (header length).length = rest) :
    ipc.recv (header length) =
      { ipc with
        msg := resize (header length ++ rest) (lengthRead length rest)
        reading := some (lengthRead length rest, 0) } := by
  obtain ⟨notAbort, head⟩ := header_prefixes length rest
  have nonEmpty : header length ≠ [] := by
    rw [← List.length_pos_iff, header_length]
    omega
  have scanned : scanSize ((header length ++ rest).drop LOC_MSG_HEAD.length) =
      some (lengthRead length rest) := by
    rw [header, List.append_assoc, List.drop_left, scanSize_header]
    rfl
  have readSome : 0 < lengthRead length rest := by
    simp only [lengthRead, SIZE_MAX]
    have power : 0 < 10 ^ (rest.takeWhile isDigit).length * length :=
      Nat.mul_pos (Nat.pow_pos (by decide)) positive
    omega
  simp only [LocIpc.recv, running, if_true, between, overwrite_start, resize_length,
    List.take_of_length_le (header_fits fits), List.isEmpty_iff, nonEmpty, if_false, left,
    notAbort, head, Bool.false_eq_true, scanned, Option.getD_some, readSome]

/-- A part of a long message goes where the last one ended. -/
private theorem recv_part {msgLen msgLenReceived : Nat} {part : List UInt8}
    (running : ipc.running = true) (reading : ipc.reading = some (msgLen, msgLenReceived))
    (nonEmpty : part ≠ []) (fits : part.length ≤ ipc.msg.length - msgLenReceived) :
    ipc.recv part =
      if msgLenReceived + part.length < msgLen then
        { ipc with
          msg := overwrite ipc.msg msgLenReceived part
          reading := some (msgLen, msgLenReceived + part.length) }
      else
        { ipc with
          msg := overwrite ipc.msg msgLenReceived part
          reading := none
          received := ipc.received ++ [overwrite ipc.msg msgLenReceived part] } := by
  simp only [LocIpc.recv, running, if_true, reading, List.take_of_length_le fits,
    List.isEmpty_iff, nonEmpty, if_false]

private theorem part_spec {sentBytes : Nat} (more : sentBytes < data.length) :
    let part := (data.drop sentBytes).take (min (data.length - sentBytes) LOC_MSG_BUF_LEN)
    part ≠ [] ∧ part.length = min (data.length - sentBytes) LOC_MSG_BUF_LEN ∧
      sentBytes + part.length ≤ data.length ∧
      data.take sentBytes ++ part = data.take (sentBytes + part.length) := by
  have length : ((data.drop sentBytes).take
      (min (data.length - sentBytes) LOC_MSG_BUF_LEN)).length =
        min (data.length - sentBytes) LOC_MSG_BUF_LEN := by
    simp only [List.length_take, List.length_drop, LOC_MSG_BUF_LEN]
    omega
  refine ⟨fun none => ?_, length, ?_, ?_⟩
  · rw [none, List.length_nil, LOC_MSG_BUF_LEN] at length
    omega
  · rw [length]
    omega
  · rw [length, List.take_add]

/-- The parts of a message put it together, where its length was read right. -/
private theorem recv_parts (sentBytes : Nat) (more : sentBytes < data.length)
    (running : ipc.running = true) (reading : ipc.reading = some (data.length, sentBytes))
    (length : ipc.msg.length = data.length) (prior : ipc.msg.take sentBytes = data.take sentBytes) :
    (sendParts data sentBytes).foldl LocIpc.recv ipc =
      { ipc with msg := data, reading := none, received := ipc.received ++ [data] } := by
  induction sentBytes using sendParts.induct data generalizing ipc with
  | case2 sentBytes done => exact absurd more done
  | case1 sentBytes _ partLen =>
    rename_i ih
    obtain ⟨nonEmpty, partLength, within, joined⟩ := part_spec more
    rw [sendParts, if_pos more, List.foldl_cons, recv_part running reading nonEmpty (by omega)]
    generalize part_eq : (data.drop sentBytes).take
      (min (data.length - sentBytes) LOC_MSG_BUF_LEN) = part at *
    have next : sentBytes + min (data.length - sentBytes) LOC_MSG_BUF_LEN =
        sentBytes + part.length := by rw [partLength]
    have ends : (overwrite ipc.msg sentBytes part).length = data.length := by
      simp only [overwrite, List.length_append, List.length_take, List.length_drop]
      omega
    have begins : (overwrite ipc.msg sentBytes part).take (sentBytes + part.length) =
        data.take (sentBytes + part.length) := by
      rw [overwrite, prior, joined, List.take_left' (by rw [List.length_take]; omega)]
    simp only [partLen] at ih
    rw [next] at ih ⊢
    split
    next before => exact ih before running rfl ends begins
    next complete =>
      have all : sentBytes + part.length = data.length := by omega
      have whole : overwrite ipc.msg sentBytes part = data := by
        rwa [all, List.take_of_length_le (Nat.le_of_eq ends),
          List.take_of_length_le (Nat.le_refl _)] at begins
      rw [all, sendParts, if_neg (Nat.lt_irrefl _), whole]
      rfl

/-- Where its length was read too long, they deliver nothing. -/
private theorem recv_parts_of_longer {msgLen : Nat} (sentBytes : Nat)
    (longer : data.length < msgLen)
    (running : ipc.running = true) (reading : ipc.reading = some (msgLen, sentBytes))
    (length : ipc.msg.length = msgLen) :
    ((sendParts data sentBytes).foldl LocIpc.recv ipc).received = ipc.received := by
  induction sentBytes using sendParts.induct data generalizing ipc with
  | case2 sentBytes done => rw [sendParts, if_neg done, List.foldl_nil]
  | case1 sentBytes more partLen =>
    rename_i ih
    obtain ⟨nonEmpty, partLength, within, -⟩ := part_spec more
    rw [sendParts, if_pos more, List.foldl_cons, recv_part running reading nonEmpty (by omega),
      if_pos (by omega)]
    generalize part_eq : (data.drop sentBytes).take
      (min (data.length - sentBytes) LOC_MSG_BUF_LEN) = part at *
    have next : sentBytes + min (data.length - sentBytes) LOC_MSG_BUF_LEN =
        sentBytes + part.length := by rw [partLength]
    simp only [partLen] at ih
    rw [next] at ih ⊢
    refine ih running rfl ?_
    simp only [overwrite, List.length_append, List.length_take, List.length_drop]
    omega

end Receive

section Step
variable {world : IpcWorld}

private theorem sent_step (payload : Payload) :
    (world.step payload).sent.getLast?.getD [] = payload.data := by
  simp [IpcWorld.step]

/-- The parts of a long message, once its header was read. -/
private theorem step_long (waiting : Waiting world) (payload : Payload)
    (long : LOC_MSG_BUF_LEN < payload.data.length) :
    (LegibleAfterLast world payload → Waiting (world.step payload)) ∧
      (¬ LegibleAfterLast world payload → (world.step payload).ipc.received = world.sent) := by
  have positive : 0 < payload.data.length := Nat.zero_lt_of_lt long
  generalize left : (resize world.ipc.msg LOC_MSG_BUF_LEN).drop
    (header payload.data.length).length = rest
  have header := recv_header waiting.running waiting.between positive payload.fits left
  have legible_iff : LegibleAfterLast world payload ↔
      ∀ byte, rest.head? = some byte → isDigit byte = false := by
    rw [LegibleAfterLast, Legible, if_neg (Nat.not_le_of_lt long), ← waiting.holds, ← left,
      List.head?_drop]
  have unfolded : (world.step payload).ipc =
      (sendParts payload.data 0).foldl LocIpc.recv
        (world.ipc.recv (LocUtil.header payload.data.length)) := by
    rw [IpcWorld.step, sendData, if_neg (Nat.not_le_of_lt long), List.foldl_cons]
  constructor
  · intro legible
    have read := lengthRead_of_no_digit payload.fits (legible_iff.mp legible)
    rw [header, read] at unfolded
    replace unfolded := unfolded.trans
      (recv_parts 0 positive waiting.running rfl (resize_length _ _) rfl)
    exact ⟨unfolded ▸ waiting.running, unfolded ▸ rfl,
      unfolded ▸ congrArg (· ++ [payload.data]) waiting.delivered,
      (congrArg LocIpc.msg unfolded).trans (sent_step payload).symm⟩
  · intro illegible
    rw [legible_iff] at illegible
    push Not at illegible
    obtain ⟨byte, follows, digit⟩ := illegible
    have longer := lengthRead_of_digit payload.fits positive follows (by simpa using digit)
    rw [unfolded, header]
    refine Eq.trans ?_ waiting.delivered
    exact recv_parts_of_longer 0 longer waiting.running rfl (resize_length _ _)

private theorem step_short (waiting : Waiting world) (payload : Payload)
    (short : payload.data.length ≤ LOC_MSG_BUF_LEN) :
    (LegibleAfterLast world payload → Waiting (world.step payload)) ∧
      (¬ LegibleAfterLast world payload → (world.step payload).ipc.received = world.sent ∨
        (world.step payload).ipc.received = world.sent ++ [[]]) := by
  have unfolded : (world.step payload).ipc = world.ipc.recv payload.data := by
    rw [IpcWorld.step, sendData, if_pos short, List.foldl_cons, List.foldl_nil]
  rw [LegibleAfterLast, ← waiting.holds, ← waiting.delivered]
  constructor
  · intro legible
    rw [recv_short waiting.running waiting.between payload.nonEmpty short legible] at unfolded
    exact ⟨unfolded ▸ waiting.running, unfolded ▸ waiting.between,
      unfolded ▸ congrArg (· ++ [payload.data]) waiting.delivered,
      (congrArg LocIpc.msg unfolded).trans (sent_step payload).symm⟩
  · intro illegible
    rw [unfolded]
    exact recv_illegible waiting.running waiting.between payload.nonEmpty short illegible

theorem keepsWaiting (payload : Payload) (waiting : Waiting world)
    (legible : LegibleAfterLast world payload) : Waiting (world.step payload) := by
  rcases Nat.lt_or_ge LOC_MSG_BUF_LEN payload.data.length with long | short
  · exact (step_long waiting payload long).1 legible
  · exact (step_short waiting payload short).1 legible

/-- A payload is delivered, whole and once, exactly where the last one leaves it legible. -/
theorem delivered_iff_legible (payload : Payload) (waiting : Waiting world) :
    (world.step payload).ipc.received = (world.step payload).sent ↔
      LegibleAfterLast world payload := by
  constructor
  · intro delivered
    by_contra illegible
    have sent : (world.step payload).sent = world.sent ++ [payload.data] := rfl
    rcases Nat.lt_or_ge LOC_MSG_BUF_LEN payload.data.length with long | short
    · rw [(step_long waiting payload long).2 illegible, sent] at delivered
      simp at delivered
    · rcases (step_short waiting payload short).2 illegible with nothing | empty
      · rw [nothing, sent] at delivered
        simp at delivered
      · rw [empty, sent] at delivered
        exact payload.nonEmpty (by simpa using delivered.symm)
  · intro legible
    exact (keepsWaiting payload waiting legible).delivered

end Step

private theorem start_waiting : Waiting IpcWorld.start := ⟨rfl, rfl, rfl, rfl⟩

theorem sent_run (payloads : List Payload) (world : IpcWorld) :
    (payloads.foldl IpcWorld.step world).sent = world.sent ++ payloads.map Payload.data := by
  induction payloads generalizing world with
  | nil => simp
  | cons payload rest ih => simp [ih, IpcWorld.step]

/-- Whatever is sent, in whatever order: after each message `onReceive` was called with
exactly the payloads sent so far, each whole, once and in order, exactly when every
message is legible over what the one before it left in the buffer. -/
theorem framing_round_trip_iff_legible (payloads : List Payload) :
    (∀ world ∈ states IpcWorld.step .start payloads, world.ipc.received = world.sent) ↔
      ∀ taken ∈ steps IpcWorld.step .start payloads, LegibleAfterLast taken.1 taken.2 := by
  rw [forall_states_iff, and_iff_right start_waiting.delivered]
  have keeps : ∀ world payload, Waiting world → LegibleAfterLast world payload →
      Waiting (IpcWorld.step world payload) := fun _ => keepsWaiting
  exact events_iff_each_step keeps (fun _ => delivered_iff_legible) payloads start_waiting

/-- A short message with a digit where the header of the next one ends. -/
def digitAfterHeader : Payload where
  data := bytes ['s', 'p', 'e', 'e', 'd', ' ', '2', '3', '.', '4', '5', '1', '7', ' ', 'm', '/', 's']
  nonEmpty := by decide
  fits := by decide
  notAbort := by decide
  notHead := by decide

/-- A message of 9000 bytes. -/
def nineThousand : Payload where
  data := List.replicate 9000 0
  nonEmpty := List.cons_ne_nil _ _
  fits := by rw [List.length_replicate]; decide
  notAbort := by
    rintro ⟨rest, same⟩
    cases same
  notHead := by
    rintro ⟨rest, same⟩
    cases same

/-- The header says 9000, and the receiver reads 90007 and waits for what never comes. -/
private theorem long_message_is_lost (payload : Payload) (length : payload.data.length = 9000) :
    ([digitAfterHeader, payload].foldl IpcWorld.step .start).ipc.received ≠
      [digitAfterHeader, payload].map Payload.data := by
  intro received
  have first : Waiting (IpcWorld.step .start digitAfterHeader) := by
    apply keepsWaiting _ start_waiting
    rw [LegibleAfterLast, Legible, if_pos (by decide)]
    constructor
    · rintro ⟨rest, same⟩
      cases same
    · rintro ⟨rest, same⟩
      cases same
  have legible := (delivered_iff_legible payload first).mp
    (received.trans (sent_run [digitAfterHeader, payload] IpcWorld.start).symm)
  have long : ¬ 9000 ≤ LOC_MSG_BUF_LEN := by
    simp only [LOC_MSG_BUF_LEN]
    omega
  have place : (header 9000).length = 12 := by decide
  have seven : (resize digitAfterHeader.data LOC_MSG_BUF_LEN)[12]? = some 55 := by
    rw [resize, List.getElem?_append_left (by decide)]
    rfl
  rw [LegibleAfterLast, sent_step, Legible, length, if_neg long, place] at legible
  cases legible 55 seven

/-- A digit that the last message left in the buffer lengthens the next. -/
theorem stale_digit_loses_a_long_message :
    ¬ ∀ payloads : List Payload,
      (payloads.foldl IpcWorld.step .start).ipc.received = payloads.map Payload.data :=
  fun all => long_message_is_lost nineThousand List.length_replicate (all _)

end Msm8917Common.LocUtil.LocIpcProofs
