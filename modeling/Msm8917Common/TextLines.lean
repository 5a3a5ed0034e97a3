import Mathlib.Data.List.Basic

/-! Texts as lists of characters: the lines of a text, and decimal numbers printed
and read back. Nothing here names a particular program. -/
namespace Msm8917Common.TextLines

/-- The lines of a text, at least one. -/
def lines : List Char → List (List Char)
  | [] => [[]]
  | char :: text =>
    if char = '\n' then [] :: lines text
    else match lines text with
      | [] => [[char]]
      | line :: rest => (char :: line) :: rest

/-- A text without a line break is one line. -/
theorem lines_of_unbroken {text : List Char} (unbroken : '\n' ∉ text) : lines text = [text] := by
  induction text with
  | nil => rfl
  | cons char text ih =>
    obtain ⟨first, rest⟩ := not_or.mp (List.mem_cons.not.mp unbroken)
    simp [lines, Ne.symm first, ih rest]

theorem lines_ne_nil (text : List Char) : lines text ≠ [] := by
  cases text with
  | nil => exact List.cons_ne_nil _ _
  | cons char text =>
    simp only [lines]
    split
    · exact List.cons_ne_nil _ _
    · split <;> exact List.cons_ne_nil _ _

/-- A line break separates the lines before it from those after it. -/
theorem lines_append (before after : List Char) :
    lines (before ++ '\n' :: after) = lines before ++ lines after := by
  induction before with
  | nil => simp [lines]
  | cons char before ih =>
    simp only [List.cons_append, lines, ih]
    split
    · rfl
    · cases isLines : lines before with
      | nil => exact absurd isLines (lines_ne_nil before)
      | cons line rest => rfl

/-- A text is one line, or a line, a break and a text. -/
theorem lines_induction {motive : List Char → Prop}
    (last : ∀ line, '\n' ∉ line → motive line)
    (more : ∀ line rest, '\n' ∉ line → motive rest → motive (line ++ '\n' :: rest))
    (text : List Char) : motive text := by
  by_cases broken : '\n' ∈ text
  · obtain ⟨line, rest, cut, unbroken⟩ := List.eq_append_cons_of_mem broken
    rw [cut]
    exact more line rest unbroken (lines_induction last more rest)
  · exact last text broken
termination_by text.length
decreasing_by
  rw [cut, List.length_append, List.length_cons]
  omega

theorem lines_cons {line : List Char} (unbroken : '\n' ∉ line) (rest : List Char) :
    lines (line ++ '\n' :: rest) = line :: lines rest := by
  rw [lines_append, lines_of_unbroken unbroken]
  rfl

/-- The first line starts as the text does. -/
theorem lines_first {char : Char} (other : char ≠ '\n') (text : List Char) :
    ∃ line rest, lines (char :: text) = (char :: line) :: rest := by
  simp only [lines, if_neg other]
  cases lines text with
  | nil => exact ⟨[], [], rfl⟩
  | cons line rest => exact ⟨line, rest, rfl⟩

/-- No line has a line break in it. -/
theorem line_unbroken {text line : List Char} (member : line ∈ lines text) : '\n' ∉ line := by
  induction text generalizing line with
  | nil =>
    cases List.mem_singleton.mp member
    exact List.not_mem_nil
  | cons char text ih =>
    simp only [lines] at member
    split at member
    · rcases List.mem_cons.mp member with rfl | later
      · exact List.not_mem_nil
      · exact ih later
    · rename_i other
      split at member
      · cases List.mem_singleton.mp member
        simpa using Ne.symm other
      · rename_i head rest isLines
        rcases List.mem_cons.mp member with rfl | later
        · have headUnbroken : '\n' ∉ head := ih (isLines ▸ List.mem_cons_self)
          exact List.not_mem_cons_of_ne_of_not_mem (Ne.symm other) headUnbroken
        · exact ih (isLines ▸ List.mem_cons_of_mem _ later)

/-- `operator<<` for a number that is not negative. -/
def printNat (number : Nat) : List Char := Nat.toDigits 10 number

/-- `operator<<` for a signed number. -/
def printInt : Int → List Char
  | .ofNat number => printNat number
  | .negSucc number => '-' :: printNat (number + 1)

def readNat (digits : List Char) : Nat := Nat.ofDigitChars 10 digits 0

def readInt : List Char → Int
  | '-' :: digits => -readNat digits
  | digits => readNat digits

theorem digit_of_mem_printNat {number : Nat} {char : Char} (member : char ∈ printNat number) :
    char.isDigit = true := Nat.isDigit_of_mem_toDigits (by decide) (by decide) member

@[simp] theorem readNat_printNat (number : Nat) : readNat (printNat number) = number :=
  Nat.ofDigitChars_ten_toDigits

theorem printNat_unbroken (number : Nat) : '\n' ∉ printNat number :=
  fun member => absurd (digit_of_mem_printNat member) (by decide)

@[simp] theorem readInt_printNat (number : Nat) : readInt (printNat number) = number := by
  unfold readInt
  split
  · rename_i digits isPrinted
    have minus : '-' ∈ printNat number := isPrinted ▸ List.mem_cons_self
    exact absurd (digit_of_mem_printNat minus) (by decide)
  · rw [readNat_printNat]

@[simp] theorem readInt_printInt (number : Int) : readInt (printInt number) = number := by
  cases number with
  | ofNat number => exact readInt_printNat number
  | negSucc number =>
    simp only [printInt, readInt, readNat_printNat]
    omega

theorem printInt_unbroken (number : Int) : '\n' ∉ printInt number := by
  cases number with
  | ofNat number => exact printNat_unbroken number
  | negSucc number =>
    exact List.not_mem_cons_of_ne_of_not_mem (by decide) (printNat_unbroken _)

theorem printInt_ne_nil (number : Int) : printInt number ≠ [] := by
  cases number with
  | ofNat number => exact Nat.toDigits_ne_nil
  | negSucc number => exact List.cons_ne_nil _ _

end Msm8917Common.TextLines
