import Mathlib.Algebra.Group.Nat.Defs
import Mathlib.Logic.Function.Basic
import Msm8917Common.CText

/-! `loc_util_split_string` of `loc_misc_utils.cpp`: one pass puts an end in place of each
delimiter and collects where the pieces start. It runs as far as an `int` holds the length
of the text, its end included. -/
namespace Msm8917Common.SplitString
open CText

/-- The memory from `raw_string` on, and the array of the caller, whose pointers into it
are counted from its start. -/
structure Split where
  raw_string : Text
  split_strings_ptr : Nat → Option Nat
  num_split_strings : Nat

/-- The loop, with this many turns to go. -/
def splitLoop (max_num_substrings : Int) (delimiter : Char) (raw_string_length : Int) :
    Nat → Nat → Split → Split
  | 0, _, split => split
  | turns + 1, raw_string_index, split =>
    let char := split.raw_string.getD raw_string_index '\x00'
    let end_string := char = '\x00'
    if char = delimiter ∨ end_string then
      let split : Split :=
        { split with
          raw_string := split.raw_string.set raw_string_index '\x00'
          num_split_strings := split.num_split_strings + 1 }
      if (raw_string_index + 1 : Int) < raw_string_length ∧
          split.num_split_strings < max_num_substrings then
        let split : Split :=
          { split with
            split_strings_ptr := Function.update split.split_strings_ptr
              split.num_split_strings (some (raw_string_index + 1)) }
        if end_string then split
        else splitLoop max_num_substrings delimiter raw_string_length turns
          (raw_string_index + 1) split
      else split
    else splitLoop max_num_substrings delimiter raw_string_length turns (raw_string_index + 1) split

/-- The function from the measured length on. -/
def splitFrom (raw_string_length : Int) (raw_string : Text) (split_strings_ptr : Nat → Option Nat)
    (max_num_substrings : Int) (delimiter : Char) : Split :=
  splitLoop max_num_substrings delimiter raw_string_length raw_string_length.toNat 0
    ⟨raw_string, Function.update split_strings_ptr 0 (some 0), 0⟩

/-- What `strlen` counts, with the end of the text, as an `int` holds it. -/
def rawStringLength (raw_string : Text) : Int :=
  ((cString raw_string).length + 1 : Int).bmod (2 ^ 32)

/-- What is left in memory, unless a pointer is null, and the result. -/
def loc_util_split_string (raw_string : Option Text)
    (split_strings_ptr : Option (Nat → Option Nat)) (max_num_substrings : Int)
    (delimiter : Char) : Option Split × Int :=
  match raw_string, split_strings_ptr with
  | some raw_string, some split_strings_ptr =>
    let split := splitFrom (rawStringLength raw_string) raw_string split_strings_ptr
      max_num_substrings delimiter
    (some split, split.num_split_strings)
  | _, _ => (none, -1)

example : (loc_util_split_string (some "a,,b".toList) (some fun _ => none) 5 ',').2 = 3 := by
  decide

/-- How many pieces end among the first characters of a text and its end. -/
def pieceEnds (delimiter : Char) (turns : Nat) (text : Text) : Nat :=
  (text.take turns).count delimiter + if text.length < turns then 1 else 0

section PieceEnds
variable {delimiter char : Char} {turns : Nat} {text : Text}

theorem pieceEnds_zero : pieceEnds delimiter 0 text = 0 := rfl

theorem pieceEnds_delimiter :
    pieceEnds delimiter (turns + 1) (delimiter :: text) = pieceEnds delimiter turns text + 1 := by
  simp only [pieceEnds, List.take_succ_cons, List.count_cons_self, List.length_cons,
    Nat.add_lt_add_iff_right]
  omega

theorem pieceEnds_other (other : char ≠ delimiter) :
    pieceEnds delimiter (turns + 1) (char :: text) = pieceEnds delimiter turns text := by
  simp only [pieceEnds, List.take_succ_cons, List.count_cons_of_ne other, List.length_cons,
    Nat.add_lt_add_iff_right]

end PieceEnds

/-- A text has one piece more than delimiters. -/
theorem length_splitOn (delimiter : Char) (text : Text) :
    (text.splitOn delimiter).length = text.count delimiter + 1 := by
  induction text with
  | nil => rfl
  | cons char text ih =>
    rw [List.splitOn_cons_eq_if_modifyHead]
    by_cases same : char = delimiter
    · subst same
      simp [ih]
    · simp [same, ih]

/-- What the loop does from a place in the text on, where a piece has begun with `piece` and
`text` is still ahead: as many pieces end as there are ends ahead, up to the maximum, each
pointer leads to its piece, and nothing before the piece is touched. -/
structure LoopSplits (limit : Nat) (delimiter : Char) (before piece text : Text) (turns : Nat)
    (split out : Split) : Prop where
  num : out.num_split_strings = split.num_split_strings +
    min (limit - split.num_split_strings) (pieceEnds delimiter turns text)
  kept : before <+: out.raw_string
  pointers : ∀ j ≤ split.num_split_strings, out.split_strings_ptr j = split.split_strings_ptr j
  pieces : ∀ j, split.num_split_strings + j < out.num_split_strings →
    ∃ start, out.split_strings_ptr (split.num_split_strings + j) = some start ∧
      ((piece ++ text).splitOn delimiter)[j]? = some (cString (out.raw_string.drop start))

section Loop
variable {limit : Nat} {delimiter : Char} {before piece text : Text} {turns : Nat}
  {split out : Split}

/-- No turn is left. -/
theorem LoopSplits.none (memory : before <+: split.raw_string) :
    LoopSplits limit delimiter before piece text 0 split split where
  num := by rw [pieceEnds_zero, Nat.min_zero, Nat.add_zero]
  kept := memory
  pointers := fun _ _ => rfl
  pieces := fun j ended => absurd ended (by omega)

/-- The piece of a pointer, once its end is set. -/
theorem cString_piece (noZero : '\x00' ∉ piece) {memory : Text}
    (kept : before ++ (piece ++ ['\x00']) <+: memory) :
    cString (memory.drop before.length) = piece := by
  obtain ⟨behind, rfl⟩ := kept
  rw [List.append_assoc, List.drop_left, List.append_assoc, List.singleton_append]
  exact cString_terminated noZero behind

/-- The character at the end of a piece, with the end put in its place. -/
theorem set_end (char : Char) (behind : Text) :
    (before ++ (piece ++ char :: behind)).set (before.length + piece.length) '\x00' =
      before ++ (piece ++ '\x00' :: behind) := by
  rw [List.set_append_right _ _ (Nat.le_add_right _ _), Nat.add_sub_cancel_left,
    List.set_append_right _ _ (Nat.le_refl _), Nat.sub_self, List.set_cons_zero]

theorem read_end (char : Char) (behind : Text) :
    (before ++ (piece ++ char :: behind)).getD (before.length + piece.length) '\x00' = char := by
  rw [← List.append_assoc, List.getD_eq_getElem?_getD, ← List.length_append,
    List.getElem?_append_right (Nat.le_refl _), Nat.sub_self]
  rfl

/-- A turn at a character that ends a piece, where the loop stops, -/
theorem turn_stops {char : Char} {behind : Text} {raw_string_length : Int}
    (memory : split.raw_string = before ++ (piece ++ char :: behind))
    (ends : char = delimiter ∨ char = '\x00')
    (stops : ¬ (((before.length + piece.length : Nat) + 1 : Int) < raw_string_length ∧
      ((split.num_split_strings + 1 : Nat) : Int) < limit)) :
    splitLoop limit delimiter raw_string_length (turns + 1) (before.length + piece.length) split =
      { split with
        raw_string := before ++ (piece ++ '\x00' :: behind)
        num_split_strings := split.num_split_strings + 1 } := by
  rw [splitLoop]
  simp only [memory, read_end, if_pos ends, set_end, if_neg stops]

/-- where it goes on with the next piece, -/
theorem turn_goes {behind : Text} {raw_string_length : Int}
    (memory : split.raw_string = before ++ (piece ++ delimiter :: behind))
    (notZero : delimiter ≠ '\x00')
    (goes : ((before.length + piece.length : Nat) + 1 : Int) < raw_string_length ∧
      ((split.num_split_strings + 1 : Nat) : Int) < limit) :
    splitLoop limit delimiter raw_string_length (turns + 1) (before.length + piece.length) split =
      splitLoop limit delimiter raw_string_length turns (before.length + piece.length + 1)
        { raw_string := before ++ (piece ++ '\x00' :: behind)
          split_strings_ptr := Function.update split.split_strings_ptr
            (split.num_split_strings + 1) (some (before.length + piece.length + 1))
          num_split_strings := split.num_split_strings + 1 } := by
  rw [splitLoop]
  simp only [memory, read_end, true_or, if_true, set_end, if_pos goes, if_neg notZero]

/-- and a turn at any other. -/
theorem turn_inside {char : Char} {behind : Text} {raw_string_length : Int}
    (memory : split.raw_string = before ++ (piece ++ char :: behind))
    (other : char ≠ delimiter) (notZero : char ≠ '\x00') :
    splitLoop limit delimiter raw_string_length (turns + 1) (before.length + piece.length) split =
      splitLoop limit delimiter raw_string_length turns (before.length + piece.length + 1)
        split := by
  have goes : ¬ (char = delimiter ∨ char = '\x00') := not_or.mpr ⟨other, notZero⟩
  rw [splitLoop]
  simp only [memory, read_end, if_neg goes]

/-- A piece ends, and is the last one. -/
theorem LoopSplits.last (noZero : '\x00' ∉ piece)
    (started : split.split_strings_ptr split.num_split_strings = some before.length)
    (first : ((piece ++ text).splitOn delimiter)[0]? = some piece)
    (one : min (limit - split.num_split_strings) (pieceEnds delimiter turns text) = 1)
    (behind : Text) :
    LoopSplits limit delimiter before piece text turns split
      { split with
        raw_string := before ++ (piece ++ '\x00' :: behind)
        num_split_strings := split.num_split_strings + 1 } where
  num := by rw [one]
  kept := List.prefix_append _ _
  pointers := fun _ _ => rfl
  pieces := by
    intro j ended
    obtain rfl : j = 0 := by simpa using ended
    refine ⟨before.length, started, ?_⟩
    rw [first, cString_piece noZero]
    exact ⟨behind, by simp⟩

/-- A piece ends at a delimiter, and the next one begins behind it. -/
theorem LoopSplits.next {begun : Split} (noZero : '\x00' ∉ piece) (noDelimiter : delimiter ∉ piece)
    (started : split.split_strings_ptr split.num_split_strings = some before.length)
    (room : split.num_split_strings < limit)
    (num : begun.num_split_strings = split.num_split_strings + 1)
    (pointers : ∀ j ≤ split.num_split_strings,
      begun.split_strings_ptr j = split.split_strings_ptr j)
    (rest : LoopSplits limit delimiter (before ++ (piece ++ ['\x00'])) [] text turns begun out) :
    LoopSplits limit delimiter before piece (delimiter :: text) (turns + 1) split out where
  num := by
    rw [rest.num, num, pieceEnds_delimiter]
    omega
  kept := (List.prefix_append _ _).trans rest.kept
  pointers := by
    intro j early
    rw [rest.pointers j (by omega), pointers j early]
  pieces := by
    have split_off : (piece ++ delimiter :: text).splitOn delimiter =
        piece :: text.splitOn delimiter := List.splitOn_append_cons_self_of_not_mem noDelimiter text
    rw [split_off]
    intro j ended
    cases j with
    | zero =>
      refine ⟨before.length, ?_, ?_⟩
      · rw [Nat.add_zero, rest.pointers _ (by omega), pointers _ (Nat.le_refl _), started]
      · rw [cString_piece noZero rest.kept]
        rfl
    | succ j =>
      have later := rest.pieces j (by omega)
      rw [num, List.nil_append] at later
      rw [List.getElem?_cons_succ, Nat.add_comm j 1, ← Nat.add_assoc]
      exact later

/-- Any other character belongs to the piece. -/
theorem LoopSplits.longer {char : Char} (other : char ≠ delimiter)
    (rest : LoopSplits limit delimiter before (piece ++ [char]) text turns split out) :
    LoopSplits limit delimiter before piece (char :: text) (turns + 1) split out where
  num := by rw [rest.num, pieceEnds_other other]
  kept := rest.kept
  pointers := rest.pointers
  pieces := by
    have whole : piece ++ char :: text = piece ++ [char] ++ text := by simp
    rw [whole]
    exact rest.pieces

/-- The induction is on the text ahead. -/
theorem splitLoop_splits (raw_string_length : Int) (rest : Text) (noZero : '\x00' ∉ text)
    (plain : '\x00' ∉ piece ∧ delimiter ∉ piece)
    (left : raw_string_length.toNat = before.length + piece.length + turns)
    (within : turns ≤ text.length + 1)
    (memory : split.raw_string = before ++ (piece ++ (text ++ '\x00' :: rest)))
    (started : split.split_strings_ptr split.num_split_strings = some before.length)
    (room : split.num_split_strings < limit) :
    LoopSplits limit delimiter before piece text turns split
      (splitLoop limit delimiter raw_string_length turns (before.length + piece.length) split) := by
  induction text generalizing before piece turns split with
  | nil =>
    cases turns with
    | zero => exact .none ⟨_, memory.symm⟩
    | succ turns =>
      obtain rfl : turns = 0 := by simpa using within
      have ends : pieceEnds delimiter 1 [] = 1 := rfl
      rw [List.nil_append] at memory
      rw [turn_stops memory (.inr rfl) (by omega)]
      apply LoopSplits.last plain.1 started
      · rw [List.append_nil, List.splitOn_eq_singleton plain.2]
        rfl
      · rw [ends]
        omega
  | cons char text ih =>
    obtain ⟨notZero, noZero⟩ := not_or.mp (List.mem_cons.not.mp noZero)
    cases turns with
    | zero => exact .none ⟨_, memory.symm⟩
    | succ turns =>
      have later : turns ≤ text.length + 1 := Nat.le_of_succ_le_succ within
      rw [List.cons_append] at memory
      by_cases same : char = delimiter
      · subst same
        by_cases goes : ((before.length + piece.length : Nat) + 1 : Int) < raw_string_length ∧
            ((split.num_split_strings + 1 : Nat) : Int) < limit
        · have behind : before.length + piece.length + 1 =
              (before ++ (piece ++ ['\x00'])).length + ([] : Text).length := by
            simp only [List.length_append, List.length_singleton, List.length_nil]
            omega
          rw [turn_goes memory (Ne.symm notZero) goes, behind]
          refine LoopSplits.next plain.1 plain.2 started room ?num ?pointers
            (ih noZero ⟨List.not_mem_nil, List.not_mem_nil⟩ ?left later ?memory ?started ?room)
          case num => rfl
          case pointers => exact fun j early => Function.update_of_ne (by omega) _ _
          case left =>
            rw [← behind]
            omega
          case memory => simp
          case started => exact Function.update_self _ _ _
          case room => exact Int.ofNat_lt.mp goes.2
        · rw [turn_stops memory (.inl rfl) goes]
          apply LoopSplits.last plain.1 started
          · rw [List.splitOn_append_cons_self_of_not_mem plain.2]
            rfl
          · rw [pieceEnds_delimiter]
            -- Either this is the last turn, or the array is full.
            rcases Nat.eq_zero_or_pos turns with rfl | more
            · rw [pieceEnds_zero]
              omega
            · have full : ¬ ((split.num_split_strings + 1 : Nat) : Int) < limit :=
                fun fits => goes ⟨by omega, fits⟩
              omega
      · have grown : before.length + piece.length + 1 =
            before.length + (piece ++ [char]).length := by
          rw [List.length_append, List.length_singleton, Nat.add_assoc]
        rw [turn_inside memory same (Ne.symm notZero), grown]
        apply LoopSplits.longer same
        apply ih noZero
        · constructor
          · simp [plain.1, notZero]
          · simp [plain.2, Ne.symm same]
        · rw [← grown]
          omega
        · exact later
        · rw [memory]
          simp
        · exact started
        · exact room

end Loop

/-- The loop of a call, whatever the length is taken for. -/
theorem splitFrom_splits (limit : Nat) (delimiter : Char) {text : Text} {raw_string_length : Int}
    (rest : Text) (split_strings_ptr : Nat → Option Nat) (noZero : '\x00' ∉ text)
    (within : raw_string_length.toNat ≤ text.length + 1) (positive : 0 < limit) :
    LoopSplits limit delimiter [] [] text raw_string_length.toNat
      ⟨text ++ '\x00' :: rest, Function.update split_strings_ptr 0 (some 0), 0⟩
      (splitFrom raw_string_length (text ++ '\x00' :: rest) split_strings_ptr limit delimiter) := by
  apply splitLoop_splits raw_string_length rest noZero ⟨List.not_mem_nil, List.not_mem_nil⟩
  · rw [List.length_nil, Nat.zero_add]
  · exact within
  · rfl
  · simp
  · exact positive

/-- As far as the loop goes, as many pieces end as in the whole text, up to the maximum,
exactly when it goes to the end or passes that many delimiters. -/
theorem min_pieceEnds_iff (limit : Nat) (delimiter : Char) {turns : Nat} {text : Text}
    (within : turns ≤ text.length + 1) :
    min limit (pieceEnds delimiter turns text) = min limit (text.splitOn delimiter).length ↔
      turns = text.length + 1 ∨ limit ≤ (text.take turns).count delimiter := by
  have fewer : (text.take turns).count delimiter ≤ text.count delimiter :=
    (List.take_sublist turns text).count_le delimiter
  rw [length_splitOn, pieceEnds]
  rcases Nat.eq_or_lt_of_le within with whole | short
  · have all : text.take turns = text := List.take_of_length_le (by omega)
    have last : text.length < turns := by omega
    rw [all, if_pos last]
    exact iff_of_true rfl (.inl whole)
  · have before : ¬ text.length < turns := by omega
    rw [if_neg before]
    omega

/-- An `int` holds a number up to `INT_MAX`, and the rest of it where that fits; otherwise
it is negative. -/
theorem toNat_bmod (count : Nat) :
    ((count + 1 : Int).bmod (2 ^ 32)).toNat =
      if (count + 1) % 2 ^ 32 ≤ INT_MAX then (count + 1) % 2 ^ 32 else 0 := by
  unfold INT_MAX
  rw [Int.bmod_def]
  split
  all_goals split
  all_goals omega

section Call
variable (limit : Nat) (delimiter : Char) {text : Text} (rest : Text)
  (split_strings_ptr : Nat → Option Nat)

/-- The number of turns of the loop. -/
theorem rawStringLength_toNat (noZero : '\x00' ∉ text) :
    (rawStringLength (text ++ '\x00' :: rest)).toNat =
      if (text.length + 1) % 2 ^ 32 ≤ INT_MAX then (text.length + 1) % 2 ^ 32 else 0 := by
  unfold rawStringLength
  rw [cString_terminated noZero]
  exact toNat_bmod text.length

private theorem call_within (noZero : '\x00' ∉ text) :
    (rawStringLength (text ++ '\x00' :: rest)).toNat ≤ text.length + 1 := by
  rw [rawStringLength_toNat rest noZero]
  split
  · exact Nat.mod_le _ _
  · exact Nat.zero_le _

/-- For a text of any length, the result is the number of pieces that end as far as the
loop goes, or the maximum, -/
theorem call_num (noZero : '\x00' ∉ text) (positive : 0 < limit) :
    (loc_util_split_string (some (text ++ '\x00' :: rest)) (some split_strings_ptr) limit
      delimiter).2 = (min limit (pieceEnds delimiter
        (rawStringLength (text ++ '\x00' :: rest)).toNat text) : Nat) := by
  have splits := splitFrom_splits limit delimiter rest split_strings_ptr noZero
    (call_within rest noZero) positive
  have num := splits.num
  rw [Nat.zero_add, Nat.sub_zero] at num
  exact congrArg Int.ofNat num

/-- and so many pointers lead to the first pieces. -/
theorem call_pieces (noZero : '\x00' ∉ text) (positive : 0 < limit) {j : Nat}
    (ended : (j : Int) < (loc_util_split_string (some (text ++ '\x00' :: rest))
      (some split_strings_ptr) limit delimiter).2) :
    ∃ split start, (loc_util_split_string (some (text ++ '\x00' :: rest))
        (some split_strings_ptr) limit delimiter).1 = some split ∧
      split.split_strings_ptr j = some start ∧
      (text.splitOn delimiter)[j]? = some (cString (split.raw_string.drop start)) := by
  have splits := splitFrom_splits limit delimiter rest split_strings_ptr noZero
    (call_within rest noZero) positive
  have pieces := splits.pieces j
  simp only [Nat.zero_add, List.nil_append] at pieces
  obtain ⟨start, pointer, piece⟩ := pieces (Int.ofNat_lt.mp ended)
  exact ⟨_, start, rfl, pointer, piece⟩

/-- What a bounded split is to be: the result is how many pieces the text has, or the
maximum, and so many pointers lead to the first pieces. -/
structure SplitsBounded (limit : Nat) (delimiter : Char) (text rest : Text)
    (split_strings_ptr : Nat → Option Nat) : Prop where
  num : (loc_util_split_string (some (text ++ '\x00' :: rest)) (some split_strings_ptr) limit
    delimiter).2 = (min limit (text.splitOn delimiter).length : Nat)
  pieces : ∀ j < min limit (text.splitOn delimiter).length, ∃ split start,
    (loc_util_split_string (some (text ++ '\x00' :: rest)) (some split_strings_ptr) limit
        delimiter).1 = some split ∧
      split.split_strings_ptr j = some start ∧
      (text.splitOn delimiter)[j]? = some (cString (split.raw_string.drop start))

/-- When the loop goes far enough, by the length of the text. -/
theorem turns_suffice_iff (noZero : '\x00' ∉ text) (positive : 0 < limit) :
    (rawStringLength (text ++ '\x00' :: rest)).toNat = text.length + 1 ∨
        limit ≤ (text.take (rawStringLength (text ++ '\x00' :: rest)).toNat).count delimiter ↔
      text.length < INT_MAX ∨ (text.length + 1) % 2 ^ 32 ≤ INT_MAX ∧
        limit ≤ (text.take ((text.length + 1) % 2 ^ 32)).count delimiter := by
  rw [rawStringLength_toNat rest noZero]
  by_cases fits : (text.length + 1) % 2 ^ 32 ≤ INT_MAX
  · have whole : (text.length + 1) % 2 ^ 32 = text.length + 1 ↔ text.length < INT_MAX := by
      unfold INT_MAX at fits ⊢
      omega
    rw [if_pos fits, whole, and_iff_right fits]
  · have long : ¬ text.length < INT_MAX := by
      unfold INT_MAX at fits ⊢
      omega
    rw [if_neg fits, List.take_zero, List.count_nil]
    constructor
    · rintro (none | none) <;> omega
    · rintro (short | ⟨again, _⟩)
      · exact absurd short long
      · exact absurd again fits

/-- It is one for every text that is shorter than `INT_MAX`; of a longer one, only where the
length that wrapped around takes the loop past as many delimiters as the maximum. -/
theorem splits_bounded_iff (noZero : '\x00' ∉ text) (positive : 0 < limit) :
    SplitsBounded limit delimiter text rest split_strings_ptr ↔
      text.length < INT_MAX ∨ (text.length + 1) % 2 ^ 32 ≤ INT_MAX ∧
        limit ≤ (text.take ((text.length + 1) % 2 ^ 32)).count delimiter := by
  have num := call_num limit delimiter rest split_strings_ptr noZero positive
  rw [← turns_suffice_iff limit delimiter rest noZero positive,
    ← min_pieceEnds_iff limit delimiter (call_within rest noZero)]
  constructor
  · intro splits
    exact Int.ofNat_inj.mp (num.symm.trans splits.num)
  · intro same
    rw [same] at num
    refine ⟨num, fun j early => ?_⟩
    apply call_pieces limit delimiter rest split_strings_ptr noZero positive
    rw [num]
    exact Int.ofNat_lt.mpr early

theorem splits_bounded_two_of_three :
    SplitsBounded 2 ',' "a,,b".toList [] (fun _ => none) ↔
      "a,,b".toList.length < INT_MAX ∨ ("a,,b".toList.length + 1) % 2 ^ 32 ≤ INT_MAX ∧
        2 ≤ ("a,,b".toList.take (("a,,b".toList.length + 1) % 2 ^ 32)).count ',' :=
  splits_bounded_iff 2 ',' [] _ (by decide) (by decide)

/-- With its end, a text of `INT_MAX` characters is as long as an `int` cannot hold: none of
its pieces is found. -/
theorem no_pieces_of_INT_MAX (noZero : '\x00' ∉ text) (length : text.length = INT_MAX)
    (positive : 0 < limit) : ¬ SplitsBounded limit delimiter text rest split_strings_ptr := by
  intro splits
  have num := call_num limit delimiter rest split_strings_ptr noZero positive
  have none : (rawStringLength (text ++ '\x00' :: rest)).toNat = 0 := by
    rw [rawStringLength_toNat rest noZero, length, if_neg (by decide)]
  rw [splits.num, none, pieceEnds_zero, length_splitOn] at num
  omega

theorem no_pieces_of_letters :
    ¬ SplitsBounded 1 ' ' (List.replicate INT_MAX 'a') [] fun _ => none := by
  have noZero : '\x00' ∉ List.replicate INT_MAX 'a' := by
    intro member
    exact absurd (List.eq_of_mem_replicate member) (by decide)
  exact no_pieces_of_INT_MAX 1 ' ' [] _ noZero List.length_replicate Nat.one_pos

end Call
end Msm8917Common.SplitString
