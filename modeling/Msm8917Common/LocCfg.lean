import Msm8917Common.LocMiscUtils

/-! The readers of `loc_cfg.cpp`. A table says which parameters are wanted and where they
go; the lines of a file or of a text in memory fill its fields, until a running count of
parameters reaches zero. -/
namespace Msm8917Common.LocCfg
open CText LocMiscUtils

def LOC_MAX_PARAM_NAME : Nat := 80
def LOC_MAX_PARAM_STRING : Nat := 80
def LOC_MAX_PARAM_LINE : Nat := LOC_MAX_PARAM_NAME + LOC_MAX_PARAM_STRING

/-- `double`: what `memset` leaves in one, and `atof`. -/
structure DoubleLibrary (Double : Type*) where
  zero : Double
  atof : Text → Double

/-- An entry of a table. Its pointers, which may be null, lead to a field and to a flag
outside. -/
structure loc_param_s_type (Field Flag : Type*) where
  param_name : Text
  param_ptr : Option Field
  param_set : Option Flag
  param_type : Char

structure loc_param_v_type (Double : Type*) where
  param_name : Text
  param_str_value : Text
  param_int_value : Int
  param_double_value : Double

/-- What goes into a field: a text up to its zero, a number or a double. -/
inductive Stored (Double : Type*) where
  | text (value : Text)
  | number (value : Int)
  | double (value : Double)
  deriving DecidableEq

/-- Where the pointers of a table lead. -/
structure Params (Field Flag Double : Type*) where
  fields : Field → Stored Double
  flags : Flag → BitVec 8

section Entries
variable {Field Flag Double : Type*}

/-- What `loc_set_config_entry` stores. Another type than these is an error. -/
def stored (config_entry : loc_param_s_type Field Flag) (config_value : loc_param_v_type Double) :
    Option (Stored Double) :=
  if config_entry.param_name = config_value.param_name ∧ config_entry.param_ptr.isSome then
    if config_entry.param_type = 's' then
      if config_value.param_str_value = "NULL".toList then some (.text [])
      else some (.text (cString (strlcpy (LOC_MAX_PARAM_STRING + 1) config_value.param_str_value)))
    else if config_entry.param_type = 'n' then some (.number config_value.param_int_value)
    else if config_entry.param_type = 'f' then some (.double config_value.param_double_value)
    else none
  else none

variable [DecidableEq Field] [DecidableEq Flag]

/-- The field of an entry, if it has one, is given the value. -/
def setField (param_ptr : Option Field) (value : Stored Double) (fields : Field → Stored Double) :
    Field → Stored Double :=
  fun field => if param_ptr = some field then value else fields field

def setFlag (param_set : Option Flag) (value : BitVec 8) (flags : Flag → BitVec 8) :
    Flag → BitVec 8 :=
  fun flag => if param_set = some flag then value else flags flag

/-- The result is 0 where something was stored. -/
def loc_set_config_entry (config_entry : loc_param_s_type Field Flag)
    (config_value : loc_param_v_type Double) (params : Params Field Flag Double) :
    Params Field Flag Double × Int :=
  match stored config_entry config_value with
  | some value =>
    ({ fields := setField config_entry.param_ptr value params.fields
       flags := setFlag config_entry.param_set 1 params.flags }, 0)
  | none => (params, -1)

/-- The two operands of a line as `strtok_r` finds them. -/
def operands (input_buf : Text) : Option (Text × Text) :=
  match strtok '=' input_buf with
  | none => none
  | some (param_name, lasts) =>
    match strtok '=' lasts with
    | none => none
    | some (param_str_value, _) => some (param_name, param_str_value)

/-- A token as `loc_util_trim_space` leaves it. -/
def trimmed (token : Text) : Text := cString (loc_util_trim_space (token ++ ['\x00']))

/-- The value with what its text is as a number. -/
def parsed (library : DoubleLibrary Double) (param_name param_str_value : Text) :
    loc_param_v_type Double :=
  if 3 ≤ param_str_value.length ∧ param_str_value[0]? = some '0' ∧
      param_str_value[1]?.map Char.toLower = some 'x' then
    ⟨param_name, param_str_value, strtol 16 (param_str_value.drop 2), library.zero⟩
  else ⟨param_name, param_str_value, atoi param_str_value, library.atof param_str_value⟩

/-- What a line says, if it has two operands. -/
def lineValue (library : DoubleLibrary Double) (input_buf : Text) :
    Option (loc_param_v_type Double) :=
  (operands input_buf).map fun (param_name, param_str_value) =>
    parsed library (trimmed param_name) (trimmed param_str_value)

/-- One turn of the loop of `loc_fill_conf_item`, on the parameters and on `ret`. -/
def fillEntry (config_value : loc_param_v_type Double) (state : Params Field Flag Double × Nat)
    (config_entry : loc_param_s_type Field Flag) : Params Field Flag Double × Nat :=
  let (params, set) := loc_set_config_entry config_entry config_value state.1
  (params, if set = 0 then state.2 + 1 else state.2)

/-- The result is the number of entries that were set. -/
def loc_fill_conf_item (library : DoubleLibrary Double) (input_buf : Text)
    (config_table : List (loc_param_s_type Field Flag)) (params : Params Field Flag Double) :
    Params Field Flag Double × Nat :=
  match lineValue library input_buf with
  | none => (params, 0)
  | some config_value => config_table.foldl (fillEntry config_value) (params, 0)

/-- The loop of `loc_read_conf_r`, at this place in the file. -/
def readLoop (library : DoubleLibrary Double) (config_table : List (loc_param_s_type Field Flag))
    (num_params : BitVec 32) (conf_fp : Text) (params : Params Field Flag Double) :
    Params Field Flag Double :=
  if num_params = 0 then params
  else
    match _read : fgets LOC_MAX_PARAM_LINE conf_fp with
    | none => params
    | some (input_buf, rest) =>
      let (params, set) := loc_fill_conf_item library (cString input_buf) config_table params
      readLoop library config_table (num_params - set) rest params
termination_by conf_fp.length
decreasing_by exact fgets_shorter (by decide) _read

/-- All validity bits of the table are cleared first. -/
def clearFlags (config_table : List (loc_param_s_type Field Flag))
    (params : Params Field Flag Double) : Params Field Flag Double :=
  { params with
    flags := config_table.foldl (fun flags config_entry => setFlag config_entry.param_set 0 flags)
      params.flags }

def loc_read_conf_r (library : DoubleLibrary Double) (conf_fp : Text)
    (config_table : List (loc_param_s_type Field Flag)) (params : Params Field Flag Double) :
    Params Field Flag Double :=
  readLoop library config_table config_table.length conf_fp (clearFlags config_table params)

/-- The loop of `loc_update_conf` on the rest of the copy, with the lines so far. -/
def updateLoop (library : DoubleLibrary Double) (config_table : List (loc_param_s_type Field Flag))
    (num_params : BitVec 32) (saveptr : Text) (ret : Int) (params : Params Field Flag Double) :
    Params Field Flag Double × Int :=
  match _next : strtok '\n' saveptr with
  | none => (params, ret)
  | some (input_buf, rest) =>
    if num_params = 0 then (params, ret)
    else
      let (params, set) := loc_fill_conf_item library input_buf config_table params
      updateLoop library config_table (num_params - set) rest (ret + 1) params
termination_by saveptr.length
decreasing_by exact strtok_shorter _next

/-- `conf_data` with its length, and whether there is memory for the copy. -/
def loc_update_conf (library : DoubleLibrary Double) (conf_data : Text) (allocated : Bool)
    (config_table : List (loc_param_s_type Field Flag)) (params : Params Field Flag Double) :
    Params Field Flag Double × Int :=
  if conf_data ≠ [] ∧ config_table ≠ [] ∧ allocated then
    -- The count starts with one record off.
    updateLoop library config_table ((config_table.length : BitVec 32) - 1) (cString conf_data) 0
      params
  else (params, -1)

end Entries

/-- The statics that are configured along with any table. -/
inductive Logging where
  | DEBUG_LEVEL | TIMESTAMP | LOC_MODEM_EMULATOR
  deriving DecidableEq

def loc_param_table : List (loc_param_s_type Logging Empty) :=
  [⟨"DEBUG_LEVEL".toList, some .DEBUG_LEVEL, none, 'n'⟩,
    ⟨"TIMESTAMP".toList, some .TIMESTAMP, none, 'n'⟩,
    ⟨"LOC_MODEM_EMULATOR".toList, some .LOC_MODEM_EMULATOR, none, 'n'⟩]

/-- `conf_file` is what the file has, if it can be opened. Each pass starts at its
beginning. -/
def loc_read_conf {Field Flag Double : Type*} [DecidableEq Field] [DecidableEq Flag]
    (library : DoubleLibrary Double) (conf_file : Option Text)
    (config_table : Option (List (loc_param_s_type Field Flag)))
    (params : Params Field Flag Double) (statics : Params Logging Empty Double) :
    Params Field Flag Double × Params Logging Empty Double :=
  match conf_file with
  | none => (params, statics)
  | some conf_fp =>
    (match config_table with
      | some config_table =>
        if config_table ≠ [] then loc_read_conf_r library conf_fp config_table params else params
      | none => params,
    loc_read_conf_r library conf_fp loc_param_table statics)

end Msm8917Common.LocCfg
