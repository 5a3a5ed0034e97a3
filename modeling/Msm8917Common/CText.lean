import Mathlib.Data.List.TakeWhile

/-! Texts in the memory of a C program: where one ends, how it falls apart at its commas,
and the numbers that `strtol` and `atoi` read at its start. Nothing here names a
particular program. -/
namespace Msm8917Common.CText

abbrev Text := List Char

/-- A `char *` ends at the first zero. -/
def cString (memory : Text) : Text := memory.takeWhile (· ≠ '\x00')

/-- A text without a zero is all there. -/
theorem cString_append {text : Text} (noZero : '\x00' ∉ text) (rest : Text) :
    cString (text ++ rest) = text ++ cString rest := by
  apply List.takeWhile_append_of_pos
  intro char member
  exact decide_eq_true fun zero => noZero (zero ▸ member)

theorem cString_subset (memory : Text) : cString memory ⊆ memory :=
  (List.takeWhile_prefix _).subset

theorem zero_notMem_cString (memory : Text) : '\x00' ∉ cString memory := by
  intro member
  have kept := List.all_eq_true.mp (List.all_takeWhile (l := memory)) _ member
  exact absurd kept (by decide)

theorem cString_of_notMem {text : Text} (noZero : '\x00' ∉ text) : cString text = text := by
  rw [← List.append_nil text, cString_append noZero]
  rfl

/-- Behind the zero at its end a text does not go on. -/
theorem cString_terminated {text : Text} (noZero : '\x00' ∉ text) (rest : Text) :
    cString (text ++ '\x00' :: rest) = text := by
  rw [cString_append noZero]
  exact List.append_nil text

/-- A text ends before the first zero. -/
theorem length_cString_le {memory : Text} {i : Nat} (ends : memory[i]? = some '\x00') :
    (cString memory).length ≤ i := by
  by_contra long
  have inside : i < (cString memory).length := Nat.not_le.mp long
  obtain ⟨_, zero⟩ := List.getElem?_eq_some_iff.mp ends
  have kept := (List.takeWhile_prefix (l := memory) _).getElem inside
  exact zero_notMem_cString memory (List.mem_of_getElem (kept.trans zero))

def INT_MAX : Nat := 2147483647

/-- What `snprintf` writes of a text into memory of this size: as much as fits in front of
the zero. -/
def snprintf (size : Nat) (text : Text) : Text :=
  if size = 0 then [] else text.take (size - 1) ++ ['\x00']

theorem snprintf_of_pos {size : Nat} (room : size ≠ 0) (text : Text) :
    snprintf size text = text.take (size - 1) ++ ['\x00'] := if_neg room

/-- What `snprintf` returns: the length of the whole text, or -1 if that is no `int`. -/
def snprintfResult (text : Text) : Int := if text.length ≤ INT_MAX then text.length else -1

/-- What `strlcpy` writes for memory of this size. -/
def strlcpy (size : Nat) (text : Text) : Text := snprintf size (cString text)

/-- `strtok_r` from where it stopped last: the next token, and where it stops now. -/
def strtok (delimiter : Char) (text : Text) : Option (Text × Text) :=
  match text.dropWhile (· = delimiter) with
  | [] => none
  | char :: rest =>
    some ((char :: rest).takeWhile (· ≠ delimiter), ((char :: rest).dropWhile (· ≠ delimiter)).tail)

/-- At most so many characters of a file, and none behind a line break. -/
def takeLine : Nat → Text → Text
  | 0, _ => []
  | _, [] => []
  | room + 1, char :: file => if char = '\n' then [char] else char :: takeLine room file

/-- `fgets` into memory of this size: the characters read, and the rest of the file. -/
def fgets (size : Nat) (file : Text) : Option (Text × Text) :=
  if file = [] then none
  else some (takeLine (size - 1) file, file.drop (takeLine (size - 1) file).length)

/-- Whether `strncasecmp` of so many characters finds no difference. -/
def strncasecmp : Nat → Text → Text → Bool
  | 0, _, _ => true
  | count + 1, left, right =>
    (left.headD '\x00').toLower == (right.headD '\x00').toLower &&
      (left.headD '\x00' == '\x00' || strncasecmp count left.tail right.tail)

theorem strncasecmp_self (count : Nat) (text : Text) : strncasecmp count text text = true := by
  induction count generalizing text with
  | zero => rfl
  | succ count ih => simp [strncasecmp, ih]

theorem toLower_eq_zero {char : Char} (same : char.toLower = '\x00') : char = '\x00' := by
  unfold Char.toLower at same
  split at same
  · next upper =>
    -- An upper case letter moves up, and does not wrap around.
    have value : char.val + 32 = 0 := congrArg Char.val same
    have lower : 65 ≤ char.val := upper.1
    have most : char.val ≤ 90 := upper.2
    grind
  · exact same

/-- What stands behind the end of a text is not compared. -/
theorem strncasecmp_cString (count : Nat) (left memory : Text) :
    strncasecmp count left (cString memory) = strncasecmp count left memory := by
  induction count generalizing left memory with
  | zero => rfl
  | succ count ih =>
    cases memory with
    | nil => rfl
    | cons char memory =>
      by_cases ends : char = '\x00'
      · subst ends
        have read : cString ('\x00' :: memory) = [] := rfl
        simp only [read, strncasecmp, List.headD_cons, List.headD_nil]
        cases same : (left.headD '\x00').toLower == Char.toLower '\x00' with
        | false => rfl
        | true =>
          have zero : left.headD '\x00' = '\x00' := toLower_eq_zero (beq_iff_eq.mp same)
          simp only [zero, beq_self_eq_true, Bool.true_or]
      · have read : cString (char :: memory) = char :: cString memory :=
          List.takeWhile_cons_of_pos (decide_eq_true ends)
        simp only [read, strncasecmp, List.headD_cons, List.tail_cons, ih]

/-- Two texts are the same to `strncasecmp` if they differ in the case only. -/
theorem strncasecmp_iff {count : Nat} {left right : Text} (leftEnds : '\x00' ∉ left)
    (rightEnds : '\x00' ∉ right) (within : left.length < count ∨ right.length < count) :
    strncasecmp count left right = true ↔ left.map Char.toLower = right.map Char.toLower := by
  induction count generalizing left right with
  | zero => exact absurd within (by simp)
  | succ count ih =>
    cases left with
    | nil =>
      cases right with
      | nil => simp [strncasecmp]
      | cons char right =>
        have written : '\x00' ≠ char.toLower := fun same =>
          rightEnds (toLower_eq_zero same.symm ▸ List.mem_cons_self)
        simp [strncasecmp, written]
    | cons char left =>
      cases right with
      | nil =>
        have written : char.toLower ≠ '\x00' := fun same =>
          leftEnds (toLower_eq_zero same ▸ List.mem_cons_self)
        simp [strncasecmp, written]
      | cons other right =>
        rw [List.mem_cons, not_or] at leftEnds rightEnds
        have written : char ≠ '\x00' := Ne.symm leftEnds.1
        have tails := ih leftEnds.2 rightEnds.2 (within.imp Nat.lt_of_succ_lt_succ
          Nat.lt_of_succ_lt_succ)
        simp [strncasecmp, written, tails]

/-- The value of a character as a digit, if its base has that digit. -/
def digitValue (base : Nat) (char : Char) : Option Nat :=
  let value :=
    if '0'.toNat ≤ char.toNat ∧ char.toNat ≤ '9'.toNat then char.toNat - '0'.toNat
    else if 'a'.toNat ≤ char.toNat ∧ char.toNat ≤ 'z'.toNat then char.toNat - 'a'.toNat + 10
    else if 'A'.toNat ≤ char.toNat ∧ char.toNat ≤ 'Z'.toNat then char.toNat - 'A'.toNat + 10
    else base
  if value < base then some value else none

/-- The number that the leading digits of a text make, after those read before. -/
def digitsFrom (base : Nat) (read : Nat) : Text → Nat
  | [] => read
  | char :: text =>
    match digitValue base char with
    | some value => digitsFrom base (read * base + value) text
    | none => read

/-- `isspace`. -/
def isSpace (char : Char) : Bool :=
  char = ' ' || ('\t'.toNat ≤ char.toNat && char.toNat ≤ '\r'.toNat)

/-- A leading `0x` goes with the digits in base sixteen. -/
def skipPrefix (base : Nat) : Text → Text
  | '0' :: 'x' :: text => if base = 16 then text else '0' :: 'x' :: text
  | '0' :: 'X' :: text => if base = 16 then text else '0' :: 'X' :: text
  | text => text

def LONG_MAX : Int := 2147483647

def LONG_MIN : Int := -2147483648

/-- `strtol` where a `long` has 32 bits: what does not fit becomes the nearest that does. -/
def strtol (base : Nat) (text : Text) : Int :=
  let value : Int :=
    match text.dropWhile isSpace with
    | '-' :: text => -(digitsFrom base 0 (skipPrefix base text) : Int)
    | '+' :: text => digitsFrom base 0 (skipPrefix base text)
    | text => digitsFrom base 0 (skipPrefix base text)
  max LONG_MIN (min LONG_MAX value)

/-- `atoi` of the same library. -/
def atoi (text : Text) : Int := strtol 10 text

/-- A digit of either case in base sixteen. -/
def IsHexDigit (char : Char) : Prop := (digitValue 16 char).isSome

instance (char : Char) : Decidable (IsHexDigit char) := inferInstanceAs (Decidable (_ = true))

theorem isHexDigit_of_all {digits : Text}
    (all : (digits.all fun char => (digitValue 16 char).isSome) = true) :
    ∀ char ∈ digits, IsHexDigit char := List.all_eq_true.mp all

/-- A text in which a number is printed in base sixteen, with zeros and a `0x` in front or
without. -/
def PrintsHex (number : Nat) (text : Text) : Prop :=
  ∃ mark digits : Text, (mark = [] ∨ mark = ['0', 'x'] ∨ mark = ['0', 'X']) ∧
    digits ≠ [] ∧ (∀ char ∈ digits, IsHexDigit char) ∧
    text = mark ++ digits ∧ digitsFrom 16 0 digits = number

/-- What stands before the digits of a number is not one. -/
theorem not_isHexDigit_of_isSpace {char : Char} (space : isSpace char = true) :
    ¬ IsHexDigit char := by
  have small : char.toNat < 48 := by
    have cases : char = ' ' ∨ ('\t'.toNat ≤ char.toNat ∧ char.toNat ≤ '\r'.toNat) := by
      simpa [isSpace] using space
    rcases cases with rfl | ⟨_, upper⟩
    · decide
    · exact Nat.lt_of_le_of_lt upper (by decide)
  have noDigit : ¬ 48 ≤ char.toNat := Nat.not_le.mpr small
  have noLower : ¬ 97 ≤ char.toNat := by omega
  have noUpper : ¬ 65 ≤ char.toNat := by omega
  simp [IsHexDigit, digitValue, noDigit, noLower, noUpper]

theorem skipPrefix_of_second {first : Char} {text : Text}
    (digit : ∀ second ∈ text.head?, IsHexDigit second) :
    skipPrefix 16 (first :: text) = first :: text := by
  unfold skipPrefix
  split
  · next rest same =>
    cases same
    exact absurd (digit 'x' rfl) (by decide)
  · next rest same =>
    cases same
    exact absurd (digit 'X' rfl) (by decide)
  · rfl

/-- A printed number is read back, unless it does not fit. -/
theorem strtol_of_printsHex {number : Nat} {text : Text} (prints : PrintsHex number text) :
    strtol 16 text = min LONG_MAX number := by
  obtain ⟨mark, digits, marked, nonempty, hex, rfl, rfl⟩ := prints
  obtain ⟨first, rest, rfl⟩ := List.exists_cons_of_ne_nil nonempty
  have digit := hex first List.mem_cons_self
  have noSpace : isSpace first = false := by
    rw [← Bool.not_eq_true]
    exact fun space => not_isHexDigit_of_isSpace space digit
  have notMinus : first ≠ '-' := fun same => absurd (same ▸ digit) (by decide)
  have notPlus : first ≠ '+' := fun same => absurd (same ▸ digit) (by decide)
  have plain : skipPrefix 16 (first :: rest) = first :: rest := skipPrefix_of_second
    fun second member => hex second (List.mem_cons_of_mem _ (List.mem_of_mem_head? member))
  have fits : ∀ value : Nat, max LONG_MIN (min LONG_MAX (value : Int)) = min LONG_MAX value := by
    intro value
    unfold LONG_MIN LONG_MAX
    omega
  rcases marked with rfl | rfl | rfl
  · simp only [strtol, List.nil_append, List.dropWhile_cons, noSpace, Bool.false_eq_true, if_false]
    split
    · next same => exact absurd (List.cons.inj same).1 notMinus
    · next same => exact absurd (List.cons.inj same).1 notPlus
    · rw [plain, fits]
  · exact fits _
  · exact fits _

theorem skipPrefix_of_ne {base : Nat} (other : base ≠ 16) (text : Text) :
    skipPrefix base text = text := by
  unfold skipPrefix
  split
  · exact if_neg other
  · exact if_neg other
  · rfl

def IsDecimalDigit (char : Char) : Prop := '0'.toNat ≤ char.toNat ∧ char.toNat ≤ '9'.toNat

instance (char : Char) : Decidable (IsDecimalDigit char) := inferInstanceAs (Decidable (_ ∧ _))

theorem isDecimalDigit_of_all {digits : Text}
    (all : (digits.all fun char => decide (IsDecimalDigit char)) = true) :
    ∀ char ∈ digits, IsDecimalDigit char :=
  fun char member => of_decide_eq_true (List.all_eq_true.mp all char member)

/-- A text in which a number is printed in base ten, with zeros in front or without. -/
def PrintsDecimal (number : Int) (text : Text) : Prop :=
  ∃ digits : Text, digits ≠ [] ∧ (∀ char ∈ digits, IsDecimalDigit char) ∧
    ((text = digits ∧ number = digitsFrom 10 0 digits) ∨
      (text = '-' :: digits ∧ number = -digitsFrom 10 0 digits))

theorem isHexDigit_of_decimal {char : Char} (digit : IsDecimalDigit char) : IsHexDigit char := by
  have value : char.toNat - '0'.toNat < 16 := by
    have upper : char.toNat ≤ 57 := digit.2
    have zero : '0'.toNat = 48 := rfl
    omega
  have both : '0'.toNat ≤ char.toNat ∧ char.toNat ≤ '9'.toNat := digit
  simp only [IsHexDigit, digitValue, both, and_self, if_true, value, Option.isSome_some]

theorem atoi_of_printsDecimal {number : Int} {text : Text} (prints : PrintsDecimal number text) :
    atoi text = max LONG_MIN (min LONG_MAX number) := by
  obtain ⟨digits, nonempty, all, ⟨rfl, rfl⟩ | ⟨rfl, rfl⟩⟩ := prints
  · obtain ⟨first, rest, rfl⟩ := List.exists_cons_of_ne_nil nonempty
    have digit := isHexDigit_of_decimal (all first List.mem_cons_self)
    have noSpace : isSpace first = false := by
      rw [← Bool.not_eq_true]
      exact fun space => not_isHexDigit_of_isSpace space digit
    have notMinus : first ≠ '-' := fun same => absurd (same ▸ digit) (by decide)
    have notPlus : first ≠ '+' := fun same => absurd (same ▸ digit) (by decide)
    simp only [atoi, strtol, List.dropWhile_cons, noSpace, Bool.false_eq_true, if_false]
    split
    · next same => exact absurd (List.cons.inj same).1 notMinus
    · next same => exact absurd (List.cons.inj same).1 notPlus
    · rw [skipPrefix_of_ne (by decide)]
  · have noSpace : isSpace '-' = false := by decide
    have plain : skipPrefix 10 digits = digits := skipPrefix_of_ne (by decide) digits
    simp only [atoi, strtol, List.dropWhile_cons, noSpace, Bool.false_eq_true, if_false, plain]

/-- Up to its first separator, a text is what stands before it. -/
theorem takeWhile_to_first {separator : Char} {before : Text} (first : separator ∉ before)
    (rest : Text) : (before ++ separator :: rest).takeWhile (· ≠ separator) = before := by
  have inside : ∀ char ∈ before, decide (char ≠ separator) = true := fun char member =>
    decide_eq_true fun same => first (same ▸ member)
  rw [List.takeWhile_append_of_pos inside, List.takeWhile_cons_of_neg (by simp), List.append_nil]

theorem dropWhile_to_first {separator : Char} {before : Text} (first : separator ∉ before)
    (rest : Text) :
    (before ++ separator :: rest).dropWhile (· ≠ separator) = separator :: rest := by
  have inside : ∀ char ∈ before, decide (char ≠ separator) = true := fun char member =>
    decide_eq_true fun same => first (same ▸ member)
  rw [List.dropWhile_append_of_pos inside, List.dropWhile_cons_of_neg (by simp)]

theorem strtok_shorter {delimiter : Char} {text token rest : Text}
    (next : strtok delimiter text = some (token, rest)) : rest.length < text.length := by
  unfold strtok at next
  split at next
  · cases next
  · next char behind cut =>
    cases next
    have start := (List.dropWhile_suffix (l := text) (· = delimiter)).length_le
    have other := List.head_dropWhile_not (l := text) (· = delimiter)
      (cut ▸ List.cons_ne_nil char behind)
    simp only [cut, List.head_cons, decide_eq_false_iff_not] at other
    have stop := (List.dropWhile_suffix (l := behind) (· ≠ delimiter)).length_le
    have onward : (char :: behind).dropWhile (· ≠ delimiter) =
        behind.dropWhile (· ≠ delimiter) := List.dropWhile_cons_of_pos (decide_eq_true other)
    rw [cut, List.length_cons] at start
    rw [onward, List.length_tail]
    omega

/-- A token and what is left behind it are parts of the text. -/
theorem strtok_subset {delimiter : Char} {text token rest : Text}
    (next : strtok delimiter text = some (token, rest)) : token ⊆ text ∧ rest ⊆ text := by
  unfold strtok at next
  split at next
  · cases next
  · next char behind cut =>
    cases next
    have start : char :: behind ⊆ text := cut ▸ (List.dropWhile_suffix (· = delimiter)).subset
    constructor
    · exact List.Subset.trans (List.takeWhile_prefix _).subset start
    · exact List.Subset.trans (List.tail_suffix _).subset
        (List.Subset.trans (List.dropWhile_suffix _).subset start)

theorem fgets_shorter {size : Nat} (room : 1 < size) {file line rest : Text}
    (read : fgets size file = some (line, rest)) : rest.length < file.length := by
  unfold fgets at read
  split at read
  · cases read
  · next something =>
    cases read
    obtain ⟨char, behind, rfl⟩ := List.exists_cons_of_ne_nil something
    obtain ⟨more, rfl⟩ := Nat.exists_eq_add_of_lt room
    have taken : 0 < (takeLine (1 + more + 1 - 1) (char :: behind)).length := by
      rw [Nat.add_sub_cancel, Nat.add_comm 1 more, takeLine]
      split <;> exact Nat.succ_pos _
    rw [List.length_drop]
    exact Nat.sub_lt (Nat.succ_pos _) taken

theorem strtok_nil (delimiter : Char) : strtok delimiter [] = none := rfl

theorem strtok_skip (delimiter : Char) (text : Text) :
    strtok delimiter (delimiter :: text) = strtok delimiter text := by
  simp only [strtok, List.dropWhile_cons_of_pos, decide_true]

/-- A token that a delimiter ends, and the text behind it. -/
theorem strtok_token {delimiter first : Char} {token : Text} (other : first ≠ delimiter)
    (without : delimiter ∉ token) (rest : Text) :
    strtok delimiter (first :: (token ++ delimiter :: rest)) = some (first :: token, rest) := by
  have without : delimiter ∉ first :: token := List.not_mem_cons_of_ne_of_not_mem other.symm without
  have whole : first :: (token ++ delimiter :: rest) = (first :: token) ++ delimiter :: rest := rfl
  simp only [strtok, List.dropWhile_cons_of_neg, other, decide_false, Bool.false_eq_true,
    not_false_eq_true]
  rw [whole, takeWhile_to_first without, dropWhile_to_first without, List.tail_cons]

theorem strtok_last {delimiter first : Char} {token : Text} (other : first ≠ delimiter)
    (without : delimiter ∉ token) :
    strtok delimiter (first :: token) = some (first :: token, []) := by
  have without : ∀ char ∈ first :: token, decide (char ≠ delimiter) = true := by
    intro char member
    apply decide_eq_true
    rintro rfl
    exact List.not_mem_cons_of_ne_of_not_mem other.symm without member
  simp only [strtok, List.dropWhile_cons_of_neg, other, decide_false, Bool.false_eq_true,
    not_false_eq_true]
  rw [List.takeWhile_eq_self_iff.mpr without, List.dropWhile_eq_nil_iff.mpr without, List.tail_nil]

theorem takeLine_broken {line : Text} {room : Nat} (unbroken : '\n' ∉ line)
    (fits : line.length < room) (rest : Text) :
    takeLine room (line ++ '\n' :: rest) = line ++ ['\n'] := by
  induction line generalizing room with
  | nil =>
    cases room with
    | zero => exact absurd fits (Nat.not_lt_zero _)
    | succ room => rfl
  | cons char line ih =>
    obtain ⟨other, unbroken⟩ := not_or.mp (List.mem_cons.not.mp unbroken)
    cases room with
    | zero => exact absurd fits (Nat.not_lt_zero _)
    | succ room =>
      rw [List.cons_append, takeLine, if_neg (Ne.symm other),
        ih unbroken (Nat.lt_of_succ_lt_succ fits), List.cons_append]

theorem takeLine_unbroken {line : Text} {room : Nat} (unbroken : '\n' ∉ line)
    (fits : line.length ≤ room) : takeLine room line = line := by
  induction line generalizing room with
  | nil => cases room <;> rfl
  | cons char line ih =>
    obtain ⟨other, unbroken⟩ := not_or.mp (List.mem_cons.not.mp unbroken)
    cases room with
    | zero => exact absurd fits (Nat.not_succ_le_zero _)
    | succ room =>
      rw [takeLine, if_neg (Ne.symm other), ih unbroken (Nat.le_of_succ_le_succ fits)]

/-- The pieces of a text that a comma ends; what stands behind the last comma is dropped. -/
def tokens (text : Text) : List Text :=
  match _cut : text.dropWhile (· ≠ ',') with
  | [] => []
  | _ :: rest => text.takeWhile (· ≠ ',') :: tokens rest
termination_by text.length
decreasing_by
  have shorter := (List.dropWhile_suffix (l := text) (· ≠ ',')).length_le
  rw [_cut, List.length_cons] at shorter
  exact shorter

/-- A piece and the comma behind it come off the front. -/
theorem tokens_append {piece : Text} (noComma : ',' ∉ piece) (rest : Text) :
    tokens (piece ++ ',' :: rest) = piece :: tokens rest := by
  rw [tokens]
  split
  · next none =>
    rw [dropWhile_to_first noComma] at none
    cases none
  · next comma tail cut =>
    rw [dropWhile_to_first noComma] at cut
    cases cut
    rw [takeWhile_to_first noComma]

theorem tokens_of_no_comma {text : Text} (noComma : ',' ∉ text) : tokens text = [] := by
  rw [tokens]
  split
  · rfl
  · next comma tail cut =>
    have behind : comma :: tail <:+ text := cut ▸ List.dropWhile_suffix _
    have here := List.head_dropWhile_not (l := text) (· ≠ ',') (by
      rw [cut]
      exact List.cons_ne_nil _ _)
    simp only [cut, List.head_cons, decide_eq_false_iff_not, not_not] at here
    exact absurd (behind.subset (here ▸ List.mem_cons_self)) noComma

/-- There are as many pieces as commas. -/
theorem length_tokens (text : Text) : (tokens text).length = text.count ',' := by
  by_cases comma : ',' ∈ text
  · obtain ⟨piece, rest, cut, before⟩ := List.eq_append_cons_of_mem comma
    have ih := length_tokens rest
    rw [cut, tokens_append before, List.count_append, List.count_eq_zero_of_not_mem before,
      List.count_cons_self, List.length_cons, ih, Nat.zero_add]
  · rw [tokens_of_no_comma comma, List.count_eq_zero_of_not_mem comma, List.length_nil]
termination_by text.length
decreasing_by
  rw [cut, List.length_append, List.length_cons]
  omega

/-- Joined by commas, pieces bring along no character that none of them has. -/
theorem not_mem_join {pieces : List Text} {char : Char} (other : char ≠ ',')
    (without : ∀ piece ∈ pieces, char ∉ piece) : char ∉ [','].intercalate pieces := by
  induction pieces with
  | nil => exact List.not_mem_nil
  | cons piece later ih =>
    have here := without piece List.mem_cons_self
    cases later with
    | nil => rwa [List.intercalate_singleton]
    | cons next later =>
      have ih := ih fun piece member => without piece (List.mem_cons_of_mem _ member)
      rw [List.intercalate_cons_cons]
      simp only [List.mem_append, List.mem_singleton, not_or]
      exact ⟨⟨here, other⟩, ih⟩

/-- Pieces joined by commas, and a comma behind the last, come apart again. -/
theorem tokens_join {pieces : List Text} (nonempty : pieces ≠ [])
    (noComma : ∀ piece ∈ pieces, ',' ∉ piece) {rest : Text} (last : ',' ∉ rest) :
    tokens ([','].intercalate pieces ++ ',' :: rest) = pieces := by
  induction pieces with
  | nil => exact absurd rfl nonempty
  | cons piece later ih =>
    have here := noComma piece List.mem_cons_self
    cases later with
    | nil =>
      rw [List.intercalate_singleton, tokens_append here, tokens_of_no_comma last]
    | cons next later =>
      have ih := ih (List.cons_ne_nil _ _) fun piece member =>
        noComma piece (List.mem_cons_of_mem _ member)
      rw [List.intercalate_cons_cons, List.append_assoc, List.append_assoc, List.singleton_append,
        tokens_append here, ih]

end Msm8917Common.CText
