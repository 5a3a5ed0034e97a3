import Msm8917Common.CStruct
import Msm8917Common.LocCfg

/-! The configuration of the process launcher in memory. `loc_set_config_entry` takes each
text field of it to be one character longer than it is, so a long value ends behind its
field. -/
namespace Msm8917Common.LocCfg
open CText CStruct

inductive loc_launcher_conf where
  | proc_name | proc_argument | proc_status | group_list | premium_feature | loc_feature_mask
  | platform_list | baseband | sglte_target | feature_gtp_cell_proc | feature_gtp_waa
  | feature_gtp_cell | feature_gtp_wifi | feature_sap | feature_odcpi
  | feature_free_wifi_scan_inject | feature_supl_wifi | feature_wifi_supplicant_info
  | auto_platform
  deriving DecidableEq

namespace loc_launcher_conf

/-- `sizeof`: the others are of type `char[LOC_MAX_PARAM_STRING]`. -/
def size : loc_launcher_conf → Nat
  | premium_feature | loc_feature_mask | sglte_target => 4
  | _ => LOC_MAX_PARAM_STRING

/-- In the order of their declaration. Every size is a multiple of four, so that no gap is
needed to align a number. -/
def layout : List (loc_launcher_conf × Nat) :=
  [proc_name, proc_argument, proc_status, group_list, premium_feature, loc_feature_mask,
    platform_list, baseband, sglte_target, feature_gtp_cell_proc, feature_gtp_waa,
    feature_gtp_cell, feature_gtp_wifi, feature_sap, feature_odcpi,
    feature_free_wifi_scan_inject, feature_supl_wifi, feature_wifi_supplicant_info,
    auto_platform].map fun field => (field, field.size)

/-- From the address of the structure on. -/
def start (field : loc_launcher_conf) : Nat := offsetof field layout

/-- The bytes of the field. -/
def value (field : loc_launcher_conf) (conf : Memory) : Text :=
  CStruct.read conf field.start field.size

theorem layout_nodup : (layout.map Prod.fst).Nodup := by decide

theorem mem_layout (field : loc_launcher_conf) : (field, field.size) ∈ layout := by
  cases field <;> decide

/-- What ends with its field touches no other. -/
theorem apart {field other : loc_launcher_conf} (different : field ≠ other) :
    field.start + field.size ≤ other.start ∨ other.start + other.size ≤ field.start :=
  offsetof_disjoint layout_nodup (mem_layout field) (mem_layout other) different

end loc_launcher_conf

open loc_launcher_conf

def gps_conf_parameter_table : List (loc_param_s_type loc_launcher_conf Empty) :=
  [⟨"SGLTE_TARGET".toList, some sglte_target, none, 'n'⟩]

def loc_feature_conf_table : List (loc_param_s_type loc_launcher_conf Empty) :=
  [⟨"GTP_CELL_PROC".toList, some feature_gtp_cell_proc, none, 's'⟩,
    ⟨"GTP_CELL".toList, some feature_gtp_cell, none, 's'⟩,
    ⟨"GTP_WIFI".toList, some feature_gtp_wifi, none, 's'⟩,
    ⟨"GTP_WAA".toList, some feature_gtp_waa, none, 's'⟩,
    ⟨"SAP".toList, some feature_sap, none, 's'⟩,
    ⟨"ODCPI".toList, some feature_odcpi, none, 's'⟩,
    ⟨"FREE_WIFI_SCAN_INJECT".toList, some feature_free_wifi_scan_inject, none, 's'⟩,
    ⟨"SUPL_WIFI".toList, some feature_supl_wifi, none, 's'⟩,
    ⟨"WIFI_SUPPLICANT_INFO".toList, some feature_wifi_supplicant_info, none, 's'⟩]

def loc_process_conf_parameter_table : List (loc_param_s_type loc_launcher_conf Empty) :=
  [⟨"PROCESS_NAME".toList, some proc_name, none, 's'⟩,
    ⟨"PROCESS_ARGUMENT".toList, some proc_argument, none, 's'⟩,
    ⟨"PROCESS_STATE".toList, some proc_status, none, 's'⟩,
    ⟨"PROCESS_GROUPS".toList, some group_list, none, 's'⟩,
    ⟨"PREMIUM_FEATURE".toList, some premium_feature, none, 'n'⟩,
    ⟨"IZAT_FEATURE_MASK".toList, some loc_feature_mask, none, 'n'⟩,
    ⟨"PLATFORMS".toList, some platform_list, none, 's'⟩,
    ⟨"BASEBAND".toList, some baseband, none, 's'⟩,
    ⟨"HARDWARE_TYPE".toList, some auto_platform, none, 's'⟩]

section Bytes
variable {Double : Type*}

/-- What is written for a value: a text with its zero, an `int` from its lowest byte on, or
the bytes of a `double`. -/
def Stored.bytes (ofDouble : Double → Text) : Stored Double → Text
  | .text value => value ++ ['\x00']
  | .number value =>
    (List.range 4).map fun byte =>
      Char.ofNat (((BitVec.ofInt 32 value).toNat >>> (8 * byte)) % 256)
  | .double value => ofDouble value

/-- `loc_set_config_entry` on the memory of the structure. -/
def setMemory (ofDouble : Double → Text) (config_entry : loc_param_s_type loc_launcher_conf Empty)
    (config_value : loc_param_v_type Double) (conf : Memory) : Memory :=
  match config_entry.param_ptr, stored config_entry config_value with
  | some field, some value => write conf field.start (value.bytes ofDouble)
  | _, _ => conf

/-- Only the bytes of the field that the entry points to are written, and so every other
field has the same bytes as before. -/
def TouchesNoOther (ofDouble : Double → Text)
    (config_entry : loc_param_s_type loc_launcher_conf Empty)
    (config_value : loc_param_v_type Double) : Prop :=
  ∀ conf field, config_entry.param_ptr = some field →
    (∀ address, address < field.start ∨ field.start + field.size ≤ address →
      setMemory ofDouble config_entry config_value conf address = conf address) ∧
    ∀ other, other ≠ field →
      other.value (setMemory ofDouble config_entry config_value conf) = other.value conf

variable {ofDouble : Double → Text} {config_entry : loc_param_s_type loc_launcher_conf Empty}
  {config_value : loc_param_v_type Double} {field : loc_launcher_conf} {conf : Memory}

/-- The texts of the tables go into text fields, and the numbers into numbers. -/
theorem target_size :
    ∀ config_entry ∈ gps_conf_parameter_table ++ loc_feature_conf_table ++
        loc_process_conf_parameter_table,
      (config_entry.param_type = 's' →
        config_entry.param_ptr.map size = some LOC_MAX_PARAM_STRING) ∧
      (config_entry.param_type = 'n' → config_entry.param_ptr.map size = some 4) := by
  decide

theorem cString_strlcpy (room : Nat) (text : Text) :
    cString (strlcpy (room + 1) text) = (cString text).take room := by
  rw [strlcpy, snprintf_of_pos (Nat.succ_ne_zero room), Nat.succ_sub_one]
  exact cString_terminated
    (fun member => zero_notMem_cString text (List.mem_of_mem_take member)) []

/-- What is left of a text that is stored. -/
def kept (text : Text) : Text :=
  if text = "NULL".toList then [] else (cString text).take LOC_MAX_PARAM_STRING

theorem zero_notMem_kept (text : Text) : '\x00' ∉ kept text := by
  unfold kept
  split
  · exact List.not_mem_nil
  · exact fun zero => zero_notMem_cString _ (List.mem_of_mem_take zero)

theorem kept_length_le (text : Text) : (kept text).length ≤ (cString text).length := by
  unfold kept
  split
  · exact Nat.zero_le _
  · exact List.length_take_le' _ _

theorem kept_length {text : Text} (long : LOC_MAX_PARAM_STRING ≤ (cString text).length) :
    (kept text).length = LOC_MAX_PARAM_STRING := by
  have other : text ≠ "NULL".toList := by
    rintro rfl
    revert long
    decide
  rw [kept, if_neg other, List.length_take]
  exact Nat.min_eq_left long

/-- What an entry of a text stores, where the name is its own. -/
theorem stored_string (string : config_entry.param_type = 's')
    (target : config_entry.param_ptr = some field)
    (named : config_entry.param_name = config_value.param_name) :
    stored config_entry config_value = some (.text (kept config_value.param_str_value)) := by
  rw [stored, if_pos ⟨named, by rw [target]; rfl⟩, if_pos string, kept]
  split
  · rfl
  · rw [cString_strlcpy]

/-- What is no longer than the field leaves the bytes outside it alone. -/
theorem touchesNoOther_of_fits (fits : ∀ field value, config_entry.param_ptr = some field →
      stored config_entry config_value = some value →
        (value.bytes ofDouble).length ≤ field.size) :
    TouchesNoOther ofDouble config_entry config_value := by
  intro conf field target
  have outside {address : Nat}
      (out : address < field.start ∨ field.start + field.size ≤ address) :
      setMemory ofDouble config_entry config_value conf address = conf address := by
    unfold setMemory
    rw [target]
    cases set : stored config_entry config_value with
    | none => rfl
    | some value =>
      have fits := fits field value target set
      exact write_outside (out.imp_right fun behind =>
        Nat.le_trans (Nat.add_le_add_left fits _) behind)
  refine ⟨fun address out => outside out, fun other different => read_congr fun index inside => ?_⟩
  apply outside
  rcases apart (Ne.symm different) with before | behind
  · exact .inr (Nat.le_trans before (Nat.le_add_right _ _))
  · exact .inl (Nat.lt_of_lt_of_le (Nat.add_lt_add_left inside _) behind)

/-- A number is never too long. -/
theorem number_touchesNoOther (member : config_entry ∈ gps_conf_parameter_table ++
      loc_feature_conf_table ++ loc_process_conf_parameter_table)
    (number : config_entry.param_type = 'n') :
    TouchesNoOther ofDouble config_entry config_value := by
  apply touchesNoOther_of_fits
  intro field value target set
  have size := (target_size config_entry member).2 number
  rw [target, Option.map_some, Option.some.injEq] at size
  rw [stored, number] at set
  split at set
  · cases set
    rw [size, Stored.bytes, List.length_map, List.length_range]
  · cases set

/-- A text is too long when it fills its field: its zero goes behind the field. -/
theorem string_touchesNoOther_iff (member : config_entry ∈ gps_conf_parameter_table ++
      loc_feature_conf_table ++ loc_process_conf_parameter_table)
    (string : config_entry.param_type = 's') :
    TouchesNoOther ofDouble config_entry config_value ↔
      config_entry.param_name ≠ config_value.param_name ∨
        (cString config_value.param_str_value).length < LOC_MAX_PARAM_STRING := by
  have size := (target_size config_entry member).1 string
  obtain ⟨field, target, size⟩ := Option.map_eq_some_iff.mp size
  constructor
  · intro untouched
    by_contra long
    rw [not_or, not_not, Nat.not_lt] at long
    obtain ⟨named, long⟩ := long
    have same := (untouched (fun _ => 'x') field target).1 (field.start + field.size)
      (.inr (Nat.le_refl _))
    have full := (kept_length long).trans size.symm
    have written : setMemory ofDouble config_entry config_value (fun _ => 'x')
        (field.start + field.size) = '\x00' := by
      simp only [setMemory, target, stored_string string target named, Stored.bytes]
      rw [write_inside (by rw [List.length_append, full]; exact Nat.lt_succ_self _)]
      simp only [← full, List.getElem_concat_length]
    rw [written] at same
    exact absurd same (by decide)
  · intro fits
    apply touchesNoOther_of_fits
    intro another value pointed set
    cases target.symm.trans pointed
    rcases fits with other | short
    · rw [stored, if_neg fun both => other both.1] at set
      cases set
    · by_cases named : config_entry.param_name = config_value.param_name
      · rw [stored_string string target named] at set
        cases set
        rw [size, Stored.bytes, List.length_append]
        exact Nat.succ_le_of_lt (Nat.lt_of_le_of_lt (kept_length_le _) short)
      · rw [stored, if_neg fun both => named both.1] at set
        cases set

/-- The text fields of the structure have these texts. -/
def Holds (conf : Memory) (params : Params loc_launcher_conf Empty Double) : Prop :=
  ∀ field, field.size = LOC_MAX_PARAM_STRING →
    params.fields field = .text (cString (field.value conf))

/-- A text that leaves room for its zero is all that changes in the fields. -/
theorem holds_setMemory (member : config_entry ∈ gps_conf_parameter_table ++
      loc_feature_conf_table ++ loc_process_conf_parameter_table)
    (string : config_entry.param_type = 's')
    (short : (cString config_value.param_str_value).length < LOC_MAX_PARAM_STRING)
    {params : Params loc_launcher_conf Empty Double} (holds : Holds conf params) :
    Holds (setMemory ofDouble config_entry config_value conf)
      (loc_set_config_entry config_entry config_value params).1 := by
  obtain ⟨field, target, size⟩ :=
    Option.map_eq_some_iff.mp ((target_size config_entry member).1 string)
  have untouched := ((string_touchesNoOther_iff member string).mpr (.inr short) conf field
    target : _ ∧ ∀ other, other ≠ field →
      other.value (setMemory ofDouble config_entry config_value conf) = other.value conf).2
  by_cases named : config_entry.param_name = config_value.param_name
  · have set := stored_string string target named
    intro other text
    simp only [loc_set_config_entry, set, setField, target]
    by_cases own : field = other
    · subst own
      have room : (kept config_value.param_str_value).length < field.size :=
        size.symm ▸ Nat.lt_of_le_of_lt (kept_length_le _) short
      simp only [if_true, setMemory, target, set, Stored.bytes, value]
      rw [read_write (by rw [List.length_append]; exact room), List.append_assoc]
      exact congrArg Stored.text (cString_terminated (zero_notMem_kept _) _).symm
    · rw [if_neg (fun same => own (Option.some.inj same)), untouched other (Ne.symm own)]
      exact holds other text
  · have none : stored config_entry config_value = none := if_neg fun both => named both.1
    simp only [setMemory, loc_set_config_entry, none, target]
    exact holds

end Bytes

/-- Setting an entry for a text of the launcher touches no other field exactly when it is not
for this name or leaves room for the zero. -/
theorem launcher_entry_touches_no_other_iff {Double : Type*} (ofDouble : Double → Text) :
    ∀ config_entry ∈ loc_process_conf_parameter_table, config_entry.param_type = 's' →
      ∀ config_value, TouchesNoOther ofDouble config_entry config_value ↔
        config_entry.param_name ≠ config_value.param_name ∨
          (cString config_value.param_str_value).length < LOC_MAX_PARAM_STRING := by
  intro config_entry member string config_value
  exact string_touchesNoOther_iff (List.mem_append_right _ member) string

theorem a_process_name_fits : TouchesNoOther (fun _ : Unit => [])
    ⟨"PROCESS_NAME".toList, some proc_name, none, 's'⟩
    ⟨"PROCESS_NAME".toList, "lowi-server".toList, 0, ()⟩ :=
  (launcher_entry_touches_no_other_iff _ _ List.mem_cons_self rfl _).mpr (.inr (by decide))

/-- With a name of 80 characters its zero is the first character of the argument. -/
theorem a_long_process_name_ends_in_the_argument :
    ¬ ∀ config_entry ∈ loc_process_conf_parameter_table, config_entry.param_type = 's' →
      ∀ line : Text, line.length < LOC_MAX_PARAM_LINE →
        ∀ config_value, lineValue (⟨(), fun _ => ()⟩ : DoubleLibrary Unit) line =
            some config_value →
          TouchesNoOther (fun _ => []) config_entry config_value := by
  intro all
  have fits := all ⟨"PROCESS_NAME".toList, some proc_name, none, 's'⟩ List.mem_cons_self rfl
    ("PROCESS_NAME=".toList ++ List.replicate 80 'x') (by decide)
    ⟨"PROCESS_NAME".toList, List.replicate 80 'x', 0, ()⟩ rfl
  have member := List.mem_append_right (gps_conf_parameter_table ++ loc_feature_conf_table)
    (List.mem_cons_self : _ ∈ loc_process_conf_parameter_table)
  rcases (string_touchesNoOther_iff member rfl).mp fits with other | short
  · exact other rfl
  · revert short
    decide

end Msm8917Common.LocCfg
