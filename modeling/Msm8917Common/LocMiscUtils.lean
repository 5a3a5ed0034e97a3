import Mathlib.Data.List.DropRight
import Msm8917Common.CText

/-! `loc_util_trim_space` of `loc_misc_utils.cpp`, on the memory from its argument on. -/
namespace Msm8917Common.LocMiscUtils
open CText

/-- The loop, from `scan_ptr` on. It has written `written` so far, and `last` is where
`last_nonspace` points, counted from the start. -/
def trimLoop : Text → Bool → Text → Option Nat → Text × Option Nat
  | [], _, written, last => (written, last)
  | char :: rest, first_nonspace, written, last =>
    if first_nonspace || !isSpace char then
      let written := written ++ [char]
      trimLoop rest true written (if isSpace char then last else some written.length)
    else trimLoop rest false written last

def loc_util_trim_space (memory : Text) : Text :=
  let (written, last_nonspace) := trimLoop (cString memory) false [] none
  let memory := written ++ memory.drop written.length
  match last_nonspace with
  | none => memory
  | some last => memory.set last '\x00'

/-- A text without the spaces at its ends. -/
def strip (text : Text) : Text := (text.dropWhile isSpace).rdropWhile isSpace

theorem strip_eq_nil_iff {text : Text} :
    strip text = [] ↔ ∀ char ∈ text, isSpace char = true := by
  rw [strip, List.rdropWhile_eq_nil_iff]
  constructor
  · intro spaces char member
    rw [← List.takeWhile_append_dropWhile (p := isSpace) (l := text)] at member
    rcases List.mem_append.mp member with lead | core
    · exact List.mem_takeWhile_imp lead
    · exact spaces char core
  · exact fun spaces char member => spaces char ((List.dropWhile_suffix isSpace).subset member)

theorem trimLoop_blank {blank : Text} (spaces : ∀ char ∈ blank, isSpace char = true)
    (rest : Text) : trimLoop (blank ++ rest) false [] none = trimLoop rest false [] none := by
  induction blank with
  | nil => rfl
  | cons char blank ih =>
    rw [List.forall_mem_cons] at spaces
    rw [List.cons_append, trimLoop, spaces.1]
    exact ih spaces.2

theorem rdropWhile_cons (char : Char) (rest : Text) :
    (char :: rest).rdropWhile isSpace =
      if rest.rdropWhile isSpace = [] then if isSpace char then [] else [char]
      else char :: rest.rdropWhile isSpace := by
  simp only [List.rdropWhile, List.reverse_cons, List.dropWhile_append, List.reverse_eq_nil_iff,
    List.isEmpty_iff]
  split
  · split
    · next space => simp [space]
    · next other => simp [other]
  · simp

/-- From the first character that is no space on, all is written, and `last_nonspace`
points behind the last one. -/
theorem trimLoop_written (text written : Text) (last : Option Nat) :
    trimLoop text true written last =
      (written ++ text,
        if text.rdropWhile isSpace = [] then last
        else some (written.length + (text.rdropWhile isSpace).length)) := by
  induction text generalizing written last with
  | nil => simp [trimLoop]
  | cons char text ih =>
    simp only [trimLoop, Bool.true_or, if_true, ih, List.append_assoc, List.singleton_append,
      List.length_append, List.length_singleton, rdropWhile_cons]
    by_cases ended : text.rdropWhile isSpace = []
    · by_cases space : isSpace char = true
      · simp [ended, space]
      · simp [ended, space]
    · simp [ended]
      omega

/-- Spaces alone are left as they are. -/
theorem trim_space_blank {text : Text} (noZero : '\x00' ∉ text) (blank : strip text = [])
    (rest : Text) :
    loc_util_trim_space (text ++ '\x00' :: rest) = text ++ '\x00' :: rest := by
  have loop := trimLoop_blank (strip_eq_nil_iff.mp blank) []
  rw [List.append_nil] at loop
  rw [loc_util_trim_space, cString_terminated noZero, loop]
  rfl

/-- What the loop ends with where there is a character that is no space. -/
theorem trimLoop_eq {text : Text} (something : strip text ≠ []) :
    trimLoop text false [] none = (text.dropWhile isSpace, some (strip text).length) := by
  have blank : ∀ char ∈ text.takeWhile isSpace, isSpace char = true :=
    fun char member => List.mem_takeWhile_imp member
  have loop := trimLoop_blank blank (text.dropWhile isSpace)
  rw [List.takeWhile_append_dropWhile] at loop
  unfold strip at something ⊢
  cases core : text.dropWhile isSpace with
  | nil =>
    rw [core] at something
    exact absurd (List.rdropWhile_nil _) something
  | cons first more =>
    have other : isSpace first = false := by
      have head := List.head_dropWhile_not (l := text) isSpace
        (core ▸ List.cons_ne_nil first more)
      simpa only [core, List.head_cons] using head
    rw [loop, core, trimLoop, rdropWhile_cons]
    simp only [other, Bool.not_false, Bool.or_true, if_true, trimLoop_written, List.nil_append,
      List.singleton_append, Bool.false_eq_true, if_false, List.length_singleton]
    split
    · rfl
    · rw [List.length_cons, Nat.add_comm]

/-- Any other text loses the spaces at its ends. -/
theorem trim_space_eq {text : Text} (noZero : '\x00' ∉ text) (something : strip text ≠ [])
    (rest : Text) :
    cString (loc_util_trim_space (text ++ '\x00' :: rest)) = strip text := by
  obtain ⟨trail, cut⟩ : strip text <+: text.dropWhile isSpace := List.rdropWhile_prefix _ _
  have shorter : (text.dropWhile isSpace).length ≤ text.length :=
    (List.dropWhile_suffix isSpace).length_le
  -- Behind what is written there is the old end of the text at least.
  obtain ⟨char, behind, left⟩ : ∃ char behind, trail ++
      (text ++ '\x00' :: rest).drop (text.dropWhile isSpace).length = char :: behind := by
    apply List.exists_cons_of_ne_nil
    simp only [ne_eq, List.append_eq_nil_iff, List.drop_eq_nil_iff, List.length_append,
      List.length_cons]
    omega
  have kept : '\x00' ∉ strip text := fun member =>
    noZero ((List.dropWhile_suffix isSpace).subset
      ((List.rdropWhile_prefix _ _).subset member))
  rw [loc_util_trim_space, cString_terminated noZero, trimLoop_eq something]
  simp only
  have memory : text.dropWhile isSpace ++
      (text ++ '\x00' :: rest).drop (text.dropWhile isSpace).length =
        strip text ++ char :: behind := by
    rw [← left, ← List.append_assoc, cut]
  rw [memory, List.set_append_right _ _ (Nat.le_refl _), Nat.sub_self, List.set_cons_zero]
  exact cString_terminated kept behind

/-- What is written lies in front of the old end of the text, which stays one. -/
theorem trim_space_inside {text : Text} (noZero : '\x00' ∉ text) (rest : Text) :
    ∃ inside : Text, inside.length = text.length ∧
      loc_util_trim_space (text ++ '\x00' :: rest) = inside ++ '\x00' :: rest := by
  by_cases blank : strip text = []
  · exact ⟨text, rfl, trim_space_blank noZero blank rest⟩
  · have shorter : (text.dropWhile isSpace).length ≤ text.length :=
      (List.dropWhile_suffix isSpace).length_le
    have shortest : (strip text).length ≤ text.length :=
      Nat.le_trans (List.rdropWhile_prefix _ _).length_le shorter
    -- The text shifted to the front, with its old end behind it.
    have shifted : (text.dropWhile isSpace ++ text.drop (text.dropWhile isSpace).length).length =
        text.length := by
      rw [List.length_append, List.length_drop, Nat.add_sub_cancel' shorter]
    refine ⟨(text.dropWhile isSpace ++ text.drop (text.dropWhile isSpace).length).set
      (strip text).length '\x00', by rw [List.length_set, shifted], ?_⟩
    rw [loc_util_trim_space, cString_terminated noZero, trimLoop_eq blank]
    simp only
    rw [List.drop_append_of_le_length shorter, ← List.append_assoc]
    rcases Nat.lt_or_eq_of_le shortest with before | atEnd
    · rw [List.set_append_left _ _ (by rw [shifted]; exact before)]
    · rw [List.set_append_right _ _ (by rw [shifted, atEnd]), shifted, atEnd, Nat.sub_self,
        List.set_cons_zero, List.set_eq_of_length_le (by rw [shifted])]

/-- A text is stripped exactly when it is empty or has a character that is no space. -/
theorem trim_space_eq_iff {text : Text} (noZero : '\x00' ∉ text) (rest : Text) :
    cString (loc_util_trim_space (text ++ '\x00' :: rest)) = strip text ↔
      text = [] ∨ ∃ char ∈ text, isSpace char = false := by
  by_cases blank : strip text = []
  · have spaces := strip_eq_nil_iff.mp blank
    rw [trim_space_blank noZero blank, cString_terminated noZero, blank]
    constructor
    · exact fun nothing => .inl nothing
    · rintro (nothing | ⟨char, member, other⟩)
      · exact nothing
      · rw [spaces char member] at other
        cases other
  · apply iff_of_true (trim_space_eq noZero blank rest)
    right
    by_contra none
    apply blank
    rw [strip_eq_nil_iff]
    intro char member
    by_contra other
    exact none ⟨char, member, eq_false_of_ne_true other⟩

/-- What the function is to do to a text in memory, and to what stands behind it. -/
structure Trims (text rest : Text) : Prop where
  stripped : cString (loc_util_trim_space (text ++ '\x00' :: rest)) = strip text
  inside : ∃ inside : Text, inside.length = text.length ∧
    loc_util_trim_space (text ++ '\x00' :: rest) = inside ++ '\x00' :: rest

/-- A text of spaces alone is the one that it does not strip; beyond the text it never
writes. -/
theorem trims_iff_something_stays {text : Text} (noZero : '\x00' ∉ text) (rest : Text) :
    Trims text rest ↔ text = [] ∨ ∃ char ∈ text, isSpace char = false := by
  rw [← trim_space_eq_iff noZero rest]
  exact ⟨fun trims => trims.stripped, fun stripped => ⟨stripped, trim_space_inside noZero rest⟩⟩

theorem trims_a_letter : Trims [' ', 'a', ' '] ['b'] ↔
    [' ', 'a', ' '] = [] ∨ ∃ char ∈ [' ', 'a', ' '], isSpace char = false :=
  trims_iff_something_stays (by decide) ['b']

/-- A single space stays. -/
theorem trim_space_keeps_a_space : ¬ Trims [' '] [] := by
  rintro ⟨stripped, _⟩
  revert stripped
  decide

end Msm8917Common.LocMiscUtils
