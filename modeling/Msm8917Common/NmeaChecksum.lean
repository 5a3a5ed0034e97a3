import Msm8917Common.CText
import Msm8917Common.NmeaGsvProofs

/-! `loc_nmea_put_checksum` in the buffer of its caller. What it stores ends inside the
buffer; what it returns is the length that the sentence would have with all of its
checksum, whether that was stored or not. -/
namespace Msm8917Common.LocNmea.Checksum
open CText Gsv

/-- The loop, from a character on: the checksum so far, and how many characters there were. -/
def checksumLoop : Text → Nat → Nat → Nat × Nat
  | [], checksum, length => (checksum, length)
  | char :: pNmea, checksum, length =>
    if char = '\x00' then (checksum, length)
    else checksumLoop pNmea (checksum ^^^ char.toNat % 256) (length + 1)

/-- A sum of `int`s. Beyond the largest of them it is undefined. -/
def intSum (undefinedSum : Int → Int) (sum : Int) : Int :=
  if sum ≤ INT_MAX then sum else undefinedSum sum

/-- The memory from `pNmea` on, which may be null, and the result. -/
def loc_nmea_put_checksum (undefinedSum : Int → Int) (pNmea : Option Text) (maxSize : Int) :
    Option Text × Int :=
  match pNmea with
  | none => (none, 0)
  | some memory =>
    let (checksum, length) := checksumLoop memory.tail 0 0
    let printed := '*' :: twoDigits 16 checksum ++ ['\r', '\n']
    let written := snprintf ((maxSize - length - 1) % 2 ^ 32).toNat printed
    (some (memory.take (length + 1) ++ written ++ memory.drop (length + 1 + written.length)),
      intSum undefinedSum (length + printed.length + 1))

/-- An uppercase digit. -/
def hexDigit (value : Nat) : Char := "0123456789ABCDEF".toList.getD value '0'

def xorOfBytes (body : Text) : Nat :=
  body.foldl (fun checksum char => checksum ^^^ char.toNat % 256) 0

/-- What goes behind a sentence. -/
def closing (body : Text) : Text :=
  ['*', hexDigit (xorOfBytes body / 16), hexDigit (xorOfBytes body % 16), '\r', '\n']

section Text
variable (body : Text)

theorem twoDigits_hex : ∀ byte < 2 ^ 8,
    twoDigits 16 byte = [hexDigit (byte / 16), hexDigit (byte % 16)] := by
  decide +kernel

theorem printed_eq : '*' :: twoDigits 16 (xorOfBytes body) ++ ['\r', '\n'] = closing body := by
  rw [twoDigits_hex (xorOfBytes body) (checksum_lt body (by omega))]
  rfl

theorem put_checksum_eq : LocNmea.loc_nmea_put_checksum body = body ++ closing body := by
  rw [← printed_eq]
  exact List.append_assoc _ _ _

theorem hexDigit_ne_zero : ∀ value < 16, hexDigit value ≠ '\x00' := by decide

theorem zero_notMem_closing : '\x00' ∉ closing body := by
  have byte : xorOfBytes body < 2 ^ 8 := checksum_lt body (by omega)
  have high := hexDigit_ne_zero (xorOfBytes body / 16) (by omega)
  have low := hexDigit_ne_zero (xorOfBytes body % 16) (by omega)
  simp [closing, high.symm, low.symm]

theorem checksumLoop_eq {body : Text} (noZero : '\x00' ∉ body) (rest : Text)
    (checksum length : Nat) :
    checksumLoop (body ++ '\x00' :: rest) checksum length =
      (body.foldl (fun checksum char => checksum ^^^ char.toNat % 256) checksum,
        length + body.length) := by
  induction body generalizing checksum length with
  | nil => rfl
  | cons char body ih =>
    obtain ⟨notZero, noZero⟩ := not_or.mp (List.mem_cons.not.mp noZero)
    rw [List.cons_append, checksumLoop, if_neg (Ne.symm notZero), ih noZero, List.length_cons]
    congr 1
    omega

end Text

/-- The sentence with all of its checksum. -/
def closed (body : Text) : Text := '$' :: (body ++ closing body)

/-- The memory of a buffer with a sentence in it. -/
def holding (body rest : Text) : Text := '$' :: (body ++ '\x00' :: rest)

/-- As much of the checksum as fits in front of the end of the buffer. -/
def stored (maxSize : Nat) (body : Text) : Text := (closing body).take (maxSize - body.length - 2)

theorem length_stored (maxSize : Nat) (body : Text) :
    (stored maxSize body).length = min (maxSize - body.length - 2) 5 :=
  List.length_take

/-- The memory with so much of it stored. -/
def closedUpTo (maxSize : Nat) (body rest : Text) : Text :=
  '$' :: (body ++ (stored maxSize body ++ '\x00' ::
    ('\x00' :: rest).drop ((stored maxSize body).length + 1)))

section Call
variable (undefinedSum : Int → Int) {body : Text} (rest : Text) {maxSize : Nat}

/-- The size that `snprintf` is given. -/
theorem size_eq (inside : body.length + 2 ≤ maxSize) (int : maxSize ≤ INT_MAX) :
    (((maxSize : Int) - body.length - 1) % 2 ^ 32).toNat = maxSize - body.length - 1 := by
  unfold INT_MAX at int
  have small : ((maxSize : Int) - body.length - 1) % 2 ^ 32 = maxSize - body.length - 1 := by
    apply Int.emod_eq_of_lt
    all_goals omega
  rw [small]
  omega

/-- What the call leaves in memory, and what it returns. -/
theorem call_eq (noZero : '\x00' ∉ body) (inside : body.length + 2 ≤ maxSize)
    (int : maxSize ≤ INT_MAX) :
    loc_nmea_put_checksum undefinedSum (some (holding body rest)) maxSize =
      (some (closedUpTo maxSize body rest), intSum undefinedSum (body.length + 6)) := by
  have room : maxSize - body.length - 1 ≠ 0 := by omega
  have printed := printed_eq body
  unfold xorOfBytes at printed
  have written : snprintf (maxSize - body.length - 1) (closing body) =
      stored maxSize body ++ ['\x00'] := snprintf_of_pos room (closing body)
  have before : (holding body rest).take (body.length + 1) = '$' :: body := by
    rw [holding, List.take_succ_cons, List.take_left]
  have behind (count : Nat) : (holding body rest).drop (body.length + 1 + count) =
      ('\x00' :: rest).drop count := by
    rw [holding, ← List.cons_append, ← List.drop_drop, ← List.length_cons, List.drop_left]
  have length : (closing body).length = 5 := rfl
  have tail : (holding body rest).tail = body ++ '\x00' :: rest := rfl
  simp only [loc_nmea_put_checksum, tail, checksumLoop_eq noZero, Nat.zero_add,
    size_eq inside int, printed, written, length, before, behind, List.length_append,
    List.length_singleton, List.cons_append, List.append_assoc, List.nil_append]
  rfl

/-- The memory in two parts, of which the first one was written. -/
private theorem closedUpTo_eq :
    closedUpTo maxSize body rest = ('$' :: (body ++ stored maxSize body) ++ ['\x00']) ++
      ('\x00' :: rest).drop ((stored maxSize body).length + 1) := by
  simp [closedUpTo]

private theorem written_within (inside : body.length + 2 ≤ maxSize) :
    ('$' :: (body ++ stored maxSize body) ++ ['\x00']).length ≤ maxSize := by
  have length := length_stored maxSize body
  simp only [List.length_append, List.length_cons, List.length_nil]
  omega

/-- The sentence in memory goes as far as the checksum was stored. -/
theorem cString_closedUpTo (noZero : '\x00' ∉ body) :
    cString (closedUpTo maxSize body rest) = '$' :: (body ++ stored maxSize body) := by
  have closingPart : '\x00' ∉ stored maxSize body := fun member =>
    zero_notMem_closing body (List.mem_of_mem_take member)
  have none : '\x00' ∉ '$' :: (body ++ stored maxSize body) := by
    simp [noZero, closingPart]
  rw [closedUpTo_eq, List.append_assoc]
  exact cString_terminated none _

/-- Its end lies in the buffer, -/
theorem terminated_within (inside : body.length + 2 ≤ maxSize) :
    '\x00' ∈ (closedUpTo maxSize body rest).take maxSize := by
  rw [closedUpTo_eq, List.take_append, List.take_of_length_le (written_within inside)]
  simp

/-- and behind the buffer nothing is written. -/
theorem nothing_beyond (inside : body.length + 2 ≤ maxSize) :
    (closedUpTo maxSize body rest).drop maxSize = (holding body rest).drop maxSize := by
  obtain ⟨more, size⟩ := Nat.exists_eq_add_of_le (written_within inside)
  have before : holding body rest = ('$' :: body) ++ '\x00' :: rest := rfl
  have place : maxSize = ('$' :: body).length + ((stored maxSize body).length + 1 + more) := by
    simp only [List.length_append, List.length_cons, List.length_nil] at size ⊢
    omega
  have left : (closedUpTo maxSize body rest).drop maxSize =
      (('\x00' :: rest).drop ((stored maxSize body).length + 1)).drop more := by
    rw [closedUpTo_eq, List.drop_append, List.drop_of_length_le (written_within inside),
      List.nil_append]
    congr 1
    omega
  have right : (holding body rest).drop maxSize =
      ('\x00' :: rest).drop ((stored maxSize body).length + 1 + more) := by
    rw [before, List.drop_append, List.drop_of_length_le (by omega), List.nil_append]
    congr 1
    omega
  rw [left, right, List.drop_drop]

/-- The GSA and GSV sentences are closed by this call: what it leaves is their text with the
checksum, cut to the size of the buffer. -/
theorem call_leaves_the_cut_sentence (noZero : '\x00' ∉ body) (inside : body.length + 2 ≤ maxSize)
    (int : maxSize ≤ INT_MAX) :
    ∃ memory result,
      loc_nmea_put_checksum undefinedSum (some (holding body rest)) maxSize =
        (some memory, result) ∧
      cString memory = cut maxSize ('$' :: LocNmea.loc_nmea_put_checksum body) := by
  refine ⟨_, _, call_eq undefinedSum rest noZero inside int, ?_⟩
  obtain ⟨room, rfl⟩ := Nat.exists_eq_add_of_le inside
  have fits : body.length + 2 + room - body.length - 2 = room := by omega
  have size : body.length + 2 + room - 1 = body.length + room + 1 := by omega
  rw [cString_closedUpTo rest noZero, put_checksum_eq, cut, stored, fits, size,
    List.take_succ_cons, List.take_length_add_append]

end Call

/-- What is to become of a sentence in a buffer of this size, with memory behind it. Where
the checksum leaves no room, the buffer still holds a text, and the result is not more. -/
def Closes (undefinedSum : Int → Int) (maxSize : Nat) (body rest : Text) : Prop :=
  ∃ memory result,
    loc_nmea_put_checksum undefinedSum (some (holding body rest)) maxSize = (some memory, result) ∧
      '\x00' ∈ memory.take maxSize ∧ memory.drop maxSize = (holding body rest).drop maxSize ∧
      if body.length + 7 ≤ maxSize then
        cString memory = closed body ∧ result = (closed body).length
      else result ≤ (cString memory).length

section Closes
variable (undefinedSum : Int → Int) {body : Text} (rest : Text) {maxSize : Nat}

theorem closes_with_room (noZero : '\x00' ∉ body) (room : body.length + 7 ≤ maxSize)
    (int : maxSize ≤ INT_MAX) : Closes undefinedSum maxSize body rest := by
  have inside : body.length + 2 ≤ maxSize := by omega
  have all : stored maxSize body = closing body :=
    List.take_of_length_le (by show 5 ≤ _; omega)
  have length : (closed body).length = body.length + 6 := by
    simp [closed, closing]
  have sum : intSum undefinedSum (body.length + 6) = body.length + 6 := if_pos (by omega)
  refine ⟨_, _, call_eq undefinedSum rest noZero inside int, terminated_within rest inside,
    nothing_beyond rest inside, ?_⟩
  rw [if_pos room, cString_closedUpTo rest noZero, all, sum, length]
  exact ⟨rfl, rfl⟩

/-- Without room the result is the length that the sentence would have had. -/
theorem not_closes_without_room (noZero : '\x00' ∉ body) (inside : body.length + 2 ≤ maxSize)
    (short : ¬ body.length + 7 ≤ maxSize) (int : maxSize ≤ INT_MAX) :
    ¬ Closes id maxSize body rest := by
  rintro ⟨memory, result, call, _, _, lengths⟩
  have length := length_stored maxSize body
  have sum : intSum id (body.length + 6) = body.length + 6 := ite_self _
  rw [call_eq id rest noZero inside int, sum] at call
  obtain ⟨same, rfl⟩ := Prod.mk.inj call
  cases same
  rw [if_neg short, cString_closedUpTo rest noZero, List.length_cons, List.length_append,
    length] at lengths
  omega

/-- Every sentence is closed as it should be exactly where its content leaves room: a cut
sentence is returned as longer than it is. -/
theorem closes_iff_room (noZero : '\x00' ∉ body) (inside : body.length + 2 ≤ maxSize)
    (int : maxSize ≤ INT_MAX) :
    (∀ undefinedSum, Closes undefinedSum maxSize body rest) ↔ body.length + 7 ≤ maxSize := by
  constructor
  · intro closes
    by_contra short
    exact not_closes_without_room rest noZero inside short int (closes id)
  · exact fun room undefinedSum => closes_with_room undefinedSum rest noZero room int

theorem closes_a_sentence :
    (∀ undefinedSum, Closes undefinedSum 20 "GPGSA,A,1".toList (List.replicate 9 'x')) ↔
      "GPGSA,A,1".toList.length + 7 ≤ 20 :=
  closes_iff_room (List.replicate 9 'x') (by decide) (by decide) (by decide)

/-- A buffer of ten bytes keeps two characters of the checksum, and the result is twelve
where nine are stored. -/
theorem cut_sentence_is_returned_longer : ¬ Closes id 10 "GSA,A,".toList ['x', 'x'] := by
  apply not_closes_without_room
  all_goals decide

end Closes
end Msm8917Common.LocNmea.Checksum
