import Mathlib.Algebra.Group.Nat.Defs
import Msm8917Common.LocCfg
import Msm8917Common.TextLines

/-! Which lines the readers of `loc_cfg.cpp` get to. A line that sets a parameter counts
against the length of the table, whichever parameter it sets, so a file is read up to as
many such lines, and a text in memory up to one less. -/
namespace Msm8917Common.LocCfg
open CText TextLines LocMiscUtils

/-- The lines of a file as `fgets` gives them. -/
def bufferLines : List Text → List Text
  | [] => []
  | [last] => if last = [] then [] else [last]
  | line :: next :: rest => (line ++ ['\n']) :: bufferLines (next :: rest)

/-- A text whose lines fit the buffer. -/
structure ConfigText where
  text : Text
  noZero : '\x00' ∉ text
  fits : ∀ line ∈ bufferLines (lines text), line.length < LOC_MAX_PARAM_LINE

/-- A table whose names differ. Its length is a `uint32_t`. -/
structure ParamTable (Field Flag : Type*) where
  entries : List (loc_param_s_type Field Flag)
  nodup : (entries.map (·.param_name)).Nodup
  fits : entries.length < 2 ^ 32

section Records
variable {Field Flag Double : Type*} {config_table : List (loc_param_s_type Field Flag)}
  {config_entry : loc_param_s_type Field Flag}

/-- The entry that a line sets, and what is stored for it. -/
def record (library : DoubleLibrary Double) (config_table : List (loc_param_s_type Field Flag))
    (input_buf : Text) : Option (loc_param_s_type Field Flag × Stored Double) :=
  (lineValue library input_buf).bind fun config_value =>
    config_table.findSome? fun config_entry =>
      (stored config_entry config_value).map (config_entry, ·)

theorem name_of_stored {config_entry : loc_param_s_type Field Flag}
    {config_value : loc_param_v_type Double} {value : Stored Double}
    (set : stored config_entry config_value = some value) :
    config_entry.param_name = config_value.param_name := by
  unfold stored at set
  split at set
  · next named => exact named.1
  · cases set

/-- A line that is well formed, with the name of the entry and a value. -/
def Configures (line : Text) (config_entry : loc_param_s_type Field Flag) : Prop :=
  ∃ param_name param_str_value, operands line = some (param_name, param_str_value) ∧
    strip param_name = config_entry.param_name ∧ strip param_name ≠ [] ∧
    strip param_str_value ≠ []

/-- The value of such a line, as the entry stores it. -/
def ValueOf (library : DoubleLibrary Double) (line : Text)
    (config_entry : loc_param_s_type Field Flag) (value : Stored Double) : Prop :=
  ∃ param_name param_str_value, operands line = some (param_name, param_str_value) ∧
    strip param_name = config_entry.param_name ∧ strip param_name ≠ [] ∧
    strip param_str_value ≠ [] ∧
    stored config_entry (parsed library (strip param_name) (strip param_str_value)) = some value

theorem operands_subset {line param_name param_str_value : Text}
    (cut : operands line = some (param_name, param_str_value)) :
    param_name ⊆ line ∧ param_str_value ⊆ line := by
  unfold operands at cut
  split at cut
  · cases cut
  · next name lasts first =>
    split at cut
    · cases cut
    · next value rest second =>
      cases cut
      obtain ⟨inLine, behind⟩ := strtok_subset first
      exact ⟨inLine, List.Subset.trans (strtok_subset second).1 behind⟩

/-- The operands of a line are stripped, but for one that is blank: it is stored with its
spaces. -/
theorem trimmed_operands_iff {line param_name param_str_value : Text} (noZero : '\x00' ∉ line)
    (cut : operands line = some (param_name, param_str_value)) :
    trimmed param_name = strip param_name ∧ trimmed param_str_value = strip param_str_value ↔
      (param_name = [] ∨ ∃ char ∈ param_name, isSpace char = false) ∧
        (param_str_value = [] ∨ ∃ char ∈ param_str_value, isSpace char = false) := by
  obtain ⟨nameInLine, valueInLine⟩ := operands_subset cut
  have name := trim_space_eq_iff (fun zero => noZero (nameInLine zero)) []
  have value := trim_space_eq_iff (fun zero => noZero (valueInLine zero)) []
  exact and_congr name value

/-- The parameter has a well-formed line in the text. -/
def Named (text : Text) (config_entry : loc_param_s_type Field Flag) : Prop :=
  ∃ line ∈ lines text, Configures line config_entry

theorem record_nil (library : DoubleLibrary Double)
    (config_table : List (loc_param_s_type Field Flag)) : record library config_table [] = none :=
  rfl

/-- An entry's type decides what kind of value it stores. -/
theorem exists_never_stored (config_entry : loc_param_s_type Field Flag) :
    ∃ other : Stored Double, ∀ config_value : loc_param_v_type Double,
      stored config_entry config_value ≠ some other := by
  by_cases string : config_entry.param_type = 's'
  · refine ⟨.number 0, fun config_value set => ?_⟩
    unfold stored at set
    rw [if_pos string] at set
    split at set
    · split at set <;> cases set
    · cases set
  · refine ⟨.text [], fun config_value set => ?_⟩
    unfold stored at set
    rw [if_neg string] at set
    split at set
    · split at set
      · cases set
      · split at set <;> cases set
    · cases set

end Records

section Sets
variable {Field Flag Double : Type*} {sets : List (loc_param_s_type Field Flag × Stored Double)}

/-- One of these lines marks something as set. -/
def Marks (flag : Flag) (sets : List (loc_param_s_type Field Flag × Stored Double)) : Prop :=
  ∃ set ∈ sets, set.1.param_set = some flag

theorem clearFlags_of_mem [DecidableEq Flag] {flag : Flag}
    {config_table : List (loc_param_s_type Field Flag)}
    {config_entry : loc_param_s_type Field Flag} (member : config_entry ∈ config_table)
    (flagged : config_entry.param_set = some flag) (params : Params Field Flag Double) :
    (clearFlags config_table params).flags flag = 0 := by
  have cleared (table : List (loc_param_s_type Field Flag)) (flags : Flag → BitVec 8)
      (zero : flags flag = 0) :
      table.foldl (fun flags entry => setFlag entry.param_set 0 flags) flags flag = 0 := by
    induction table generalizing flags with
    | nil => exact zero
    | cons entry table ih =>
      apply ih
      simp only [setFlag, zero, ite_self]
  obtain ⟨before, after, rfl⟩ := List.append_of_mem member
  simp only [clearFlags, List.foldl_append, List.foldl_cons]
  exact cleared after _ (if_pos flagged)

variable [DecidableEq Field]

/-- What the last of these lines for a field stores there. -/
def lastInto (field : Field) (sets : List (loc_param_s_type Field Flag × Stored Double)) :
    Option (Stored Double) :=
  (sets.filter fun set => set.1.param_ptr = some field).getLast?.map (·.2)

theorem lastInto_cons (field : Field) (set : loc_param_s_type Field Flag × Stored Double) :
    lastInto field (set :: sets) =
      (lastInto field sets).or (if set.1.param_ptr = some field then some set.2 else none) := by
  unfold lastInto
  by_cases here : set.1.param_ptr = some field
  · rw [List.filter_cons_of_pos (by simpa using here), if_pos here, List.getLast?_cons]
    cases (sets.filter fun set => set.1.param_ptr = some field).getLast? <;> rfl
  · rw [List.filter_cons_of_neg (by simpa using here), if_neg here, Option.or_none]

end Sets

variable {Field Flag Double : Type*} [DecidableEq Field] [DecidableEq Flag]

def store (params : Params Field Flag Double)
    (set : loc_param_s_type Field Flag × Stored Double) : Params Field Flag Double where
  fields := setField set.1.param_ptr set.2 params.fields
  flags := setFlag set.1.param_set 1 params.flags

variable {library : DoubleLibrary Double} {config_table : List (loc_param_s_type Field Flag)}
  {config_entry : loc_param_s_type Field Flag} {config_value : loc_param_v_type Double}

/-! One line -/

theorem fillEntry_none (none : stored config_entry config_value = none)
    (state : Params Field Flag Double × Nat) : fillEntry config_value state config_entry = state := by
  simp only [fillEntry, loc_set_config_entry, none]
  rfl

theorem fillEntry_some {value : Stored Double}
    (set : stored config_entry config_value = some value)
    (state : Params Field Flag Double × Nat) :
    fillEntry config_value state config_entry =
      (store state.1 (config_entry, value), state.2 + 1) := by
  simp only [fillEntry, loc_set_config_entry, set]
  rfl

theorem fillLoop_none (others : ∀ config_entry ∈ config_table,
      stored config_entry config_value = none) (state : Params Field Flag Double × Nat) :
    config_table.foldl (fillEntry config_value) state = state := by
  induction config_table with
  | nil => rfl
  | cons config_entry rest ih =>
    rw [List.forall_mem_cons] at others
    rw [List.foldl_cons, fillEntry_none others.1, ih others.2]

/-- The loop over a table that has the name of the line at most once. -/
theorem fillLoop_eq (nodup : (config_table.map (·.param_name)).Nodup)
    (state : Params Field Flag Double × Nat) :
    config_table.foldl (fillEntry config_value) state =
      match config_table.findSome? fun config_entry =>
        (stored config_entry config_value).map (config_entry, ·) with
      | some set => (store state.1 set, state.2 + 1)
      | none => state := by
  induction config_table with
  | nil => rfl
  | cons config_entry rest ih =>
    obtain ⟨fresh, nodup⟩ := List.nodup_cons.mp nodup
    rw [List.foldl_cons, List.findSome?_cons]
    cases set : stored config_entry config_value with
    | none =>
      rw [fillEntry_none set]
      exact ih nodup
    | some value =>
      rw [fillEntry_some set, fillLoop_none]
      · rfl
      · intro other member
        rw [Option.eq_none_iff_forall_ne_some]
        intro second again
        have same : config_entry.param_name = other.param_name :=
          (name_of_stored set).trans (name_of_stored again).symm
        exact fresh (List.mem_map.mpr ⟨other, member, same.symm⟩)

theorem loc_fill_conf_item_eq (nodup : (config_table.map (·.param_name)).Nodup)
    (input_buf : Text) (params : Params Field Flag Double) :
    loc_fill_conf_item library input_buf config_table params =
      match record library config_table input_buf with
      | some set => (store params set, 1)
      | none => (params, 0) := by
  unfold loc_fill_conf_item record
  cases lineValue library input_buf with
  | none => rfl
  | some config_value => exact fillLoop_eq nodup (params, 0)

/-! The loops -/

/-- The lines that set something, in order. -/
def records (library : DoubleLibrary Double) (config_table : List (loc_param_s_type Field Flag))
    (buffers : List Text) : List (loc_param_s_type Field Flag × Stored Double) :=
  buffers.filterMap (record library config_table)

theorem count_succ {num_params : Nat} (fits : num_params + 1 < 2 ^ 32) :
    BitVec.ofNat 32 (num_params + 1) ≠ 0 ∧
      BitVec.ofNat 32 (num_params + 1) - BitVec.ofNat 32 1 = BitVec.ofNat 32 num_params := by
  constructor
  · intro zero
    have value := congrArg BitVec.toNat zero
    rw [BitVec.toNat_ofNat, Nat.mod_eq_of_lt fits] at value
    cases value
  · rw [BitVec.ofNat_add]
    exact BitVec.add_sub_cancel _ _

/-- One turn of either loop: the line sets something and counts, or does neither. -/
theorem turn_eq (nodup : (config_table.map (·.param_name)).Nodup) (input_buf : Text)
    (buffers : List Text) {num_params : Nat} (fits : num_params + 1 < 2 ^ 32)
    (next : BitVec 32 → Params Field Flag Double → Params Field Flag Double)
    (onward : ∀ count ≤ num_params + 1, ∀ params, next (BitVec.ofNat 32 count) params =
      ((records library config_table buffers).take count).foldl store params)
    (params : Params Field Flag Double) :
    next (BitVec.ofNat 32 (num_params + 1) -
        (loc_fill_conf_item library input_buf config_table params).2)
      (loc_fill_conf_item library input_buf config_table params).1 =
      ((records library config_table (input_buf :: buffers)).take (num_params + 1)).foldl store
        params := by
  rw [loc_fill_conf_item_eq nodup, records, List.filterMap_cons]
  cases record library config_table input_buf with
  | none =>
    exact (congrArg₂ next (BitVec.sub_zero _) rfl).trans (onward _ (Nat.le_refl _) params)
  | some set =>
    have counted := onward num_params (Nat.le_succ _) (store params set)
    exact (congrArg₂ next (count_succ fits).2 rfl).trans counted

theorem bufferLines_cons (line : Text) (rest : Text) :
    bufferLines (line :: lines rest) = (line ++ ['\n']) :: bufferLines (lines rest) := by
  cases isLines : lines rest with
  | nil => exact absurd isLines (lines_ne_nil rest)
  | cons next behind => rfl

theorem readLoop_zero (conf_fp : Text) (params : Params Field Flag Double) :
    readLoop library config_table 0 conf_fp params = params := by
  rw [readLoop, if_pos rfl]

theorem readLoop_end (num_params : BitVec 32) (params : Params Field Flag Double) :
    readLoop library config_table num_params [] params = params := by
  rw [readLoop]
  split
  · rfl
  · split
    · rfl
    · next read => cases read

theorem readLoop_line {num_params : BitVec 32} (more : num_params ≠ 0)
    {conf_fp input_buf rest : Text}
    (read : fgets LOC_MAX_PARAM_LINE conf_fp = some (input_buf, rest))
    (params : Params Field Flag Double) :
    readLoop library config_table num_params conf_fp params =
      readLoop library config_table
        (num_params - (loc_fill_conf_item library (cString input_buf) config_table params).2) rest
        (loc_fill_conf_item library (cString input_buf) config_table params).1 := by
  rw [readLoop, if_neg more]
  split
  · next ends =>
    rw [read] at ends
    cases ends
  · next other behind here =>
    rw [read] at here
    cases here
    rfl

/-- A file is read up to as many lines that set something as the count says. -/
theorem readLoop_eq (nodup : (config_table.map (·.param_name)).Nodup) (text : Text)
    (noZero : '\x00' ∉ text)
    (short : ∀ line ∈ bufferLines (lines text), line.length < LOC_MAX_PARAM_LINE)
    {num_params : Nat} (fits : num_params < 2 ^ 32) (params : Params Field Flag Double) :
    readLoop library config_table (BitVec.ofNat 32 num_params) text params =
      ((records library config_table (bufferLines (lines text))).take num_params).foldl store
        params := by
  induction text using lines_induction generalizing num_params params with
  | last line unbroken =>
    rw [lines_of_unbroken unbroken] at short ⊢
    by_cases empty : line = []
    · subst empty
      rw [readLoop_end]
      simp [bufferLines, records]
    · have alone : bufferLines [line] = [line] := if_neg empty
      rw [alone, List.forall_mem_singleton] at short
      have whole : takeLine (LOC_MAX_PARAM_LINE - 1) line = line :=
        takeLine_unbroken unbroken (Nat.le_sub_one_of_lt short)
      have read : fgets LOC_MAX_PARAM_LINE line = some (line, []) := by
        rw [fgets, if_neg empty, whole, List.drop_length]
      rw [alone]
      cases num_params with
      | zero => exact readLoop_zero line params
      | succ num_params =>
        rw [readLoop_line (count_succ fits).1 read, cString_of_notMem noZero]
        apply turn_eq nodup line [] fits (readLoop library config_table · [] ·)
        intro count _ params
        rw [readLoop_end, records, List.filterMap_nil, List.take_nil]
        rfl
  | more line rest unbroken ih =>
    rw [lines_cons unbroken, bufferLines_cons, List.forall_mem_cons] at short
    obtain ⟨fitsHere, short⟩ := short
    have lineNoZero : '\x00' ∉ line ++ ['\n'] := by
      simp only [List.mem_append, List.mem_cons, not_or] at noZero ⊢
      exact ⟨noZero.1, noZero.2.1, List.not_mem_nil⟩
    have restNoZero : '\x00' ∉ rest := fun member =>
      noZero (List.mem_append_right _ (List.mem_cons_of_mem _ member))
    have whole : takeLine (LOC_MAX_PARAM_LINE - 1) (line ++ '\n' :: rest) = line ++ ['\n'] := by
      apply takeLine_broken unbroken
      rw [List.length_append, List.length_singleton] at fitsHere
      exact Nat.lt_sub_of_add_lt fitsHere
    have read : fgets LOC_MAX_PARAM_LINE (line ++ '\n' :: rest) = some (line ++ ['\n'], rest) := by
      rw [fgets, if_neg (by simp), whole]
      simp
    rw [lines_cons unbroken, bufferLines_cons]
    cases num_params with
    | zero => exact readLoop_zero _ params
    | succ num_params =>
      rw [readLoop_line (count_succ fits).1 read, cString_of_notMem lineNoZero]
      apply turn_eq nodup _ _ fits (readLoop library config_table · rest ·)
      intro count least params
      exact ih restNoZero short (Nat.lt_of_le_of_lt least fits) params

theorem updateLoop_end {saveptr : Text} (ends : strtok '\n' saveptr = none)
    (num_params : BitVec 32) (ret : Int) (params : Params Field Flag Double) :
    updateLoop library config_table num_params saveptr ret params = (params, ret) := by
  rw [updateLoop]
  split
  · rfl
  · next next =>
    rw [ends] at next
    cases next

theorem updateLoop_zero (saveptr : Text) (ret : Int) (params : Params Field Flag Double) :
    updateLoop library config_table 0 saveptr ret params = (params, ret) := by
  rw [updateLoop]
  split
  · rfl
  · rw [if_pos rfl]

theorem updateLoop_line {num_params : BitVec 32} (more : num_params ≠ 0)
    {saveptr input_buf rest : Text} (token : strtok '\n' saveptr = some (input_buf, rest))
    (ret : Int) (params : Params Field Flag Double) :
    updateLoop library config_table num_params saveptr ret params =
      updateLoop library config_table
        (num_params - (loc_fill_conf_item library input_buf config_table params).2) rest (ret + 1)
        (loc_fill_conf_item library input_buf config_table params).1 := by
  rw [updateLoop]
  split
  · next ends =>
    rw [token] at ends
    cases ends
  · next other behind here =>
    rw [token] at here
    cases here
    rw [if_neg more]

/-- Line breaks in a row are one. -/
theorem updateLoop_skip (num_params : BitVec 32) (saveptr : Text) (ret : Int)
    (params : Params Field Flag Double) :
    updateLoop library config_table num_params ('\n' :: saveptr) ret params =
      updateLoop library config_table num_params saveptr ret params := by
  by_cases more : num_params = 0
  · subst more
    rw [updateLoop_zero, updateLoop_zero]
  · cases token : strtok '\n' saveptr with
    | none => rw [updateLoop_end token, updateLoop_end ((strtok_skip _ _).trans token)]
    | some next =>
      rw [updateLoop_line more token, updateLoop_line more ((strtok_skip _ _).trans token)]

theorem updateLoop_eq (nodup : (config_table.map (·.param_name)).Nodup) (text : Text)
    {num_params : Nat} (fits : num_params < 2 ^ 32) (ret : Int)
    (params : Params Field Flag Double) :
    (updateLoop library config_table (BitVec.ofNat 32 num_params) text ret params).1 =
      ((records library config_table (lines text)).take num_params).foldl store params := by
  induction text using lines_induction generalizing num_params ret params with
  | last line unbroken =>
    rw [lines_of_unbroken unbroken]
    cases line with
    | nil =>
      rw [updateLoop_end (strtok_nil _), records, List.filterMap_cons_none (record_nil _ _),
        List.filterMap_nil, List.take_nil]
      rfl
    | cons char line =>
      obtain ⟨other, unbroken⟩ := not_or.mp (List.mem_cons.not.mp unbroken)
      cases num_params with
      | zero => exact congrArg Prod.fst (updateLoop_zero _ ret params)
      | succ num_params =>
        rw [updateLoop_line (count_succ fits).1 (strtok_last (Ne.symm other) unbroken)]
        apply turn_eq nodup (char :: line) [] fits fun count params =>
          (updateLoop library config_table count [] (ret + 1) params).1
        intro count _ params
        rw [updateLoop_end (strtok_nil _), records, List.filterMap_nil, List.take_nil]
        rfl
  | more line rest unbroken ih =>
    rw [lines_cons unbroken]
    cases line with
    | nil =>
      rw [records, List.filterMap_cons_none (record_nil _ _)]
      exact (congrArg Prod.fst (updateLoop_skip _ rest ret params)).trans (ih fits ret params)
    | cons char line =>
      obtain ⟨other, unbroken⟩ := not_or.mp (List.mem_cons.not.mp unbroken)
      cases num_params with
      | zero => exact congrArg Prod.fst (updateLoop_zero _ ret params)
      | succ num_params =>
        rw [List.cons_append,
          updateLoop_line (count_succ fits).1 (strtok_token (Ne.symm other) unbroken rest)]
        apply turn_eq nodup (char :: line) (lines rest) fits fun count params =>
          (updateLoop library config_table count rest (ret + 1) params).1
        intro count least params
        exact ih (Nat.lt_of_le_of_lt least fits) (ret + 1) params

/-! What the lines leave -/

variable {sets : List (loc_param_s_type Field Flag × Stored Double)}

theorem fields_foldl_store (field : Field) (params : Params Field Flag Double) :
    (sets.foldl store params).fields field = (lastInto field sets).getD (params.fields field) := by
  induction sets generalizing params with
  | nil => rfl
  | cons set sets ih =>
    rw [List.foldl_cons, ih, lastInto_cons]
    cases lastInto field sets with
    | some value => rfl
    | none =>
      simp only [store, setField, Option.none_or]
      split <;> rfl

theorem flags_of_not_marks {flag : Flag} (none : ¬ Marks flag sets)
    (params : Params Field Flag Double) :
    (sets.foldl store params).flags flag = params.flags flag := by
  induction sets generalizing params with
  | nil => rfl
  | cons set sets ih =>
    have other : set.1.param_set ≠ some flag := fun here =>
      none ⟨set, List.mem_cons_self, here⟩
    have others : ¬ Marks flag sets := fun ⟨later, member, here⟩ =>
      none ⟨later, List.mem_cons_of_mem _ member, here⟩
    rw [List.foldl_cons, ih others]
    exact if_neg other

/-- A mark stays, whatever is set later. -/
theorem flags_of_marked {flag : Flag} {params : Params Field Flag Double}
    (marked : params.flags flag = 1) : (sets.foldl store params).flags flag = 1 := by
  induction sets generalizing params with
  | nil => exact marked
  | cons set sets ih =>
    apply ih
    simp only [store, setFlag, marked, ite_self]

theorem flags_of_marks {flag : Flag} (marks : Marks flag sets)
    (params : Params Field Flag Double) : (sets.foldl store params).flags flag = 1 := by
  obtain ⟨set, member, here⟩ := marks
  obtain ⟨before, after, rfl⟩ := List.append_of_mem member
  rw [List.foldl_append, List.foldl_cons]
  exact flags_of_marked (if_pos here)

/-! The readers -/

/-- The lines that `loc_read_conf_r` gets to: as many as the table has entries. -/
def fileSets (library : DoubleLibrary Double) (text : Text)
    (config_table : List (loc_param_s_type Field Flag)) :
    List (loc_param_s_type Field Flag × Stored Double) :=
  (records library config_table (bufferLines (lines text))).take config_table.length

/-- The lines that `loc_update_conf` gets to: one less. -/
def textSets (library : DoubleLibrary Double) (text : Text)
    (config_table : List (loc_param_s_type Field Flag)) :
    List (loc_param_s_type Field Flag × Stored Double) :=
  (records library config_table (lines text)).take (config_table.length - 1)

variable {text : ConfigText} {table : ParamTable Field Flag}

theorem loc_read_conf_r_eq (params : Params Field Flag Double) :
    loc_read_conf_r library text.text table.entries params =
      (fileSets library text.text table.entries).foldl store (clearFlags table.entries params) :=
  readLoop_eq table.nodup text.text text.noZero text.fits table.fits _

theorem loc_update_conf_eq (params : Params Field Flag Double) :
    (loc_update_conf library text.text true table.entries params).1 =
      (textSets library text.text table.entries).foldl store params := by
  unfold loc_update_conf textSets
  split
  · next called =>
    obtain ⟨less, length⟩ := Nat.exists_eq_succ_of_ne_zero
      (mt List.length_eq_zero_iff.mp called.2.1)
    have fits := table.fits
    rw [length] at fits ⊢
    rw [cString_of_notMem text.noZero, Nat.succ_sub_one]
    have counted : ((less + 1 : Nat) : BitVec 32) - 1 = BitVec.ofNat 32 less := (count_succ fits).2
    rw [Nat.succ_eq_add_one, counted]
    exact updateLoop_eq table.nodup text.text (Nat.lt_of_succ_lt fits) 0 params
  · next silent =>
    simp only [and_true, not_and_or, not_not] at silent
    rcases silent with none | none
    · rw [none, lines, records, List.filterMap_cons_none (record_nil _ _), List.filterMap_nil,
        List.take_nil]
      rfl
    · rw [none]
      rfl

/-- The target fields are the same, and so are the marks of the parameters in the text. -/
def Agree (text : Text) (config_table : List (loc_param_s_type Field Flag))
    (read update : Params Field Flag Double) : Prop :=
  (∀ config_entry ∈ config_table, ∀ field, config_entry.param_ptr = some field →
    read.fields field = update.fields field) ∧
  ∀ config_entry ∈ config_table, Named text config_entry →
    ∀ flag, config_entry.param_set = some flag → read.flags flag = update.flags flag

theorem exists_other (value : Stored Double) : ∃ other, other ≠ value := by
  cases value with
  | text value => exact ⟨.number 0, nofun⟩
  | number value => exact ⟨.text [], nofun⟩
  | double value => exact ⟨.text [], nofun⟩

/-- Over every content before, two lists of lines store the same exactly if the last line
for the field stores the same in both, or there is none in either. -/
theorem getD_eq_iff {left right : Option (Stored Double)} :
    (∀ initial, left.getD initial = right.getD initial) ↔ left = right := by
  constructor
  · intro same
    cases left with
    | none =>
      cases right with
      | none => rfl
      | some value =>
        obtain ⟨other, different⟩ := exists_other value
        exact absurd (same other) different
    | some value =>
      cases right with
      | none =>
        obtain ⟨other, different⟩ := exists_other value
        exact absurd (same other).symm different
      | some second => exact congrArg some (same (.number 0))
  · rintro rfl initial
    rfl

theorem flags_agree_iff {fileSets textSets : List (loc_param_s_type Field Flag × Stored Double)}
    (member : config_entry ∈ config_table) {flag : Flag}
    (flagged : config_entry.param_set = some flag) (fields : Field → Stored Double) :
    (∀ flags : Flag → BitVec 8,
      (fileSets.foldl store (clearFlags config_table ⟨fields, flags⟩)).flags flag =
        (textSets.foldl store ⟨fields, flags⟩).flags flag) ↔
      Marks flag fileSets ∧ Marks flag textSets := by
  constructor
  · intro same
    by_cases file : Marks flag fileSets
    · refine ⟨file, ?_⟩
      by_contra text
      have zero := same fun _ => 0
      rw [flags_of_marks file, flags_of_not_marks text] at zero
      exact absurd (show (1 : BitVec 8) = 0 from zero) (by decide)
    · have one := same fun _ => 1
      rw [flags_of_not_marks file, clearFlags_of_mem member flagged] at one
      by_cases text : Marks flag textSets
      · rw [flags_of_marks text] at one
        exact absurd one (by decide)
      · rw [flags_of_not_marks text] at one
        exact absurd (show (0 : BitVec 8) = 1 from one) (by decide)
  · rintro ⟨file, text⟩ flags
    rw [flags_of_marks file, flags_of_marks text]

/-- The readers agree exactly when, for each field, the last line for it that each of them
gets to stores the same, and both get to a line for each parameter in the text. -/
theorem both_readers_agree_iff (library : DoubleLibrary Double) (text : ConfigText)
    (table : ParamTable Field Flag) :
    (∀ params, Agree text.text table.entries
      (loc_read_conf_r library text.text table.entries params)
      (loc_update_conf library text.text true table.entries params).1) ↔
    (∀ config_entry ∈ table.entries, ∀ field, config_entry.param_ptr = some field →
      lastInto field (fileSets library text.text table.entries) =
        lastInto field (textSets library text.text table.entries)) ∧
    ∀ config_entry ∈ table.entries, Named text.text config_entry →
      ∀ flag, config_entry.param_set = some flag →
        Marks flag (fileSets library text.text table.entries) ∧
          Marks flag (textSets library text.text table.entries) := by
  simp only [Agree, loc_read_conf_r_eq, loc_update_conf_eq]
  constructor
  · intro agree
    constructor
    · intro config_entry member field target
      apply getD_eq_iff.mp
      intro initial
      have same := (agree ⟨fun _ => initial, fun _ => 0⟩).1 config_entry member field target
      rwa [fields_foldl_store, fields_foldl_store] at same
    · intro config_entry member named flag flagged
      apply (flags_agree_iff member flagged fun _ => .number 0).mp
      intro flags
      exact (agree ⟨fun _ => .number 0, flags⟩).2 config_entry member named flag flagged
  · rintro ⟨fields, flags⟩ params
    constructor
    · intro config_entry member field target
      rw [fields_foldl_store, fields_foldl_store, fields config_entry member field target]
      rfl
    · intro config_entry member named flag flagged
      exact (flags_agree_iff member flagged params.fields).mpr
        (flags config_entry member named flag flagged) params.flags

/-- A table of one entry, and a line for it: `loc_update_conf` reads nothing. -/
theorem the_only_parameter_is_not_updated :
    ¬ ∀ (text : ConfigText) (table : ParamTable Unit Empty) params, Agree text.text table.entries
      (loc_read_conf_r (⟨(), fun _ => ()⟩ : DoubleLibrary Unit) text.text table.entries params)
      (loc_update_conf (⟨(), fun _ => ()⟩ : DoubleLibrary Unit) text.text true table.entries
        params).1 := by
  intro agree
  let text : ConfigText := ⟨"A=1".toList, by decide, by decide⟩
  let table : ParamTable Unit Empty := ⟨[⟨['A'], some (), none, 'n'⟩], by decide, by decide⟩
  have same := (agree text table ⟨fun _ => .number 0, nofun⟩).1 _ List.mem_cons_self () rfl
  rw [loc_read_conf_r_eq, loc_update_conf_eq, fields_foldl_store, fields_foldl_store] at same
  revert same
  decide

/-! Whether every parameter is read -/

/-- Each parameter with a well-formed line is marked and holds the value of one of them. -/
def AllRead (library : DoubleLibrary Double) (text : Text)
    (config_table : List (loc_param_s_type Field Flag)) (params : Params Field Flag Double) :
    Prop :=
  ∀ config_entry ∈ config_table, Named text config_entry →
    (∀ flag, config_entry.param_set = some flag → params.flags flag = 1) ∧
    ∃ field, config_entry.param_ptr = some field ∧
      ∃ line ∈ lines text, ValueOf library line config_entry (params.fields field)

/-- What is read into the table of a caller: an empty one takes nothing. -/
theorem loc_read_conf_fst (library : DoubleLibrary Double) (conf_fp : Text)
    (config_table : List (loc_param_s_type Field Flag)) (params : Params Field Flag Double)
    (statics : Params Logging Empty Double) :
    (loc_read_conf library (some conf_fp) (some config_table) params statics).1 =
      loc_read_conf_r library conf_fp config_table params := by
  simp only [loc_read_conf]
  split
  · rfl
  · next empty =>
    rw [not_not.mp empty]
    exact (readLoop_zero _ _).symm

/-- Every parameter with a well-formed line is read exactly when one of the first lines that
set something marks it, as many as the table has entries, and the last of these lines for
its field stores the value of a well-formed line for it. -/
theorem every_parameter_is_read_iff (library : DoubleLibrary Double) (file : ConfigText)
    (table : ParamTable Field Flag) :
    (∀ params statics, AllRead library file.text table.entries
      (loc_read_conf library (some file.text) (some table.entries) params statics).1) ↔
    ∀ config_entry ∈ table.entries, Named file.text config_entry →
      (∀ flag, config_entry.param_set = some flag →
        Marks flag (fileSets library file.text table.entries)) ∧
      ∃ field, config_entry.param_ptr = some field ∧
        ∃ value, lastInto field (fileSets library file.text table.entries) = some value ∧
          ∃ line ∈ lines file.text, ValueOf library line config_entry value := by
  simp only [AllRead, loc_read_conf_fst, loc_read_conf_r_eq]
  constructor
  · intro all config_entry member named
    obtain ⟨other, never⟩ := exists_never_stored config_entry
    constructor
    · intro flag flagged
      by_contra unmarked
      have marked := ((all ⟨fun _ => other, fun _ => 0⟩ ⟨fun _ => other, nofun⟩
        config_entry member named).1 flag flagged)
      rw [flags_of_not_marks unmarked, clearFlags_of_mem member flagged] at marked
      exact absurd marked (by decide)
    · obtain ⟨-, field, target, line, inText, value⟩ := all ⟨fun _ => other, fun _ => 0⟩
        ⟨fun _ => other, nofun⟩ config_entry member named
      rw [fields_foldl_store] at value
      refine ⟨field, target, ?_⟩
      cases last : lastInto field (fileSets library file.text table.entries) with
      | some stored =>
        rw [last] at value
        exact ⟨stored, rfl, line, inText, value⟩
      | none =>
        rw [last] at value
        obtain ⟨_, _, _, _, _, _, set⟩ := value
        exact absurd set (never _)
  · intro read params statics config_entry member named
    obtain ⟨marked, field, target, value, last, line, inText, ofLine⟩ :=
      read config_entry member named
    refine ⟨fun flag flagged => flags_of_marks (marked flag flagged) _, field, target, line,
      inText, ?_⟩
    rw [fields_foldl_store, last]
    exact ofLine

/-- One parameter has two lines, and that of the other is not reached. -/
theorem a_parameter_behind_a_repetition_is_lost :
    ¬ ∀ (file : ConfigText) (table : ParamTable Nat Empty) params statics,
      AllRead (⟨(), fun _ => ()⟩ : DoubleLibrary Unit) file.text table.entries
        (loc_read_conf (⟨(), fun _ => ()⟩ : DoubleLibrary Unit) (some file.text)
          (some table.entries) params statics).1 := by
  intro all
  let file : ConfigText := ⟨"A=1\nA=2\nB=3".toList, by decide, by decide⟩
  let lost : loc_param_s_type Nat Empty := ⟨['B'], some 1, none, 'n'⟩
  let table : ParamTable Nat Empty :=
    ⟨[⟨['A'], some 0, none, 'n'⟩, lost], by decide, by decide⟩
  have named : Named file.text lost :=
    ⟨"B=3".toList, by decide, ['B'], ['3'], by decide, by decide, by decide, by decide⟩
  obtain ⟨other, never⟩ := exists_never_stored lost
  obtain ⟨-, field, target, line, -, _, _, -, -, -, -, holds⟩ :=
    all file table ⟨fun _ => other, nofun⟩ ⟨fun _ => other, nofun⟩ lost (by simp [table]) named
  have unread : lastInto 1 (fileSets ⟨(), fun _ => ()⟩ file.text table.entries) = none := by decide
  cases target
  rw [loc_read_conf_fst, loc_read_conf_r_eq, fields_foldl_store, unread] at holds
  exact never _ holds

end Msm8917Common.LocCfg
