import OcnDevice.Core.CString

/-!
# Configuration files

A configuration is a text of lines `NAME = VALUE`.  What it may set is said by a table of
parameters, and it is loaded by one of two functions: `loc_read_conf_r` reads lines from a file,
and `loc_update_conf` cuts a buffer into lines.  Both hand each line to `loc_fill_conf_item`, and
both count down how many parameters of the table are still missing.

A parameter of the table has a place for its value, which no other has, and may have one for a flag
that says that it was set.  Strings have no NUL, and memory never runs out.  What `atof` makes of a
string is a parameter of the model; a `double` is given by its bits.
-/

open CString

namespace Gps.LocCfg

/-- `LOC_MAX_PARAM_STRING`. -/
def locMaxParamString : ℕ := 80

/-- `LOC_MAX_PARAM_LINE`. -/
def locMaxParamLine : ℕ := 160

/-! ## Parameters -/

/-- `param_type`. -/
inductive ParamType
  | s
  | n
  | f
  deriving DecidableEq, Repr

/-- What the place of a parameter holds: a string, an `int` or a `double`. -/
def ParamType.Value : ParamType → Type
  | .s => List Char
  | .n => ℤ
  | .f => BitVec 64

/-- A `loc_param_s_type`. -/
structure Param where
  paramName : List Char
  paramType : ParamType
  hasParamSet : Bool
  deriving DecidableEq, Repr

/-- A parameter of the table, with what is at its places. -/
structure Entry extends Param where
  value : paramType.Value
  paramSet : Bool

/-- A `loc_param_v_type`. -/
structure ConfigValue where
  paramName : List Char
  paramStrValue : List Char
  paramIntValue : ℤ
  paramDoubleValue : BitVec 64

/-- A value for each type. -/
def ConfigValue.convert (v : ConfigValue) : (t : ParamType) → t.Value
  | .s =>
      if v.paramStrValue = ['N', 'U', 'L', 'L'] then []
      else strlcpy (locMaxParamString + 1) v.paramStrValue
  | .n => v.paramIntValue
  | .f => v.paramDoubleValue

namespace Entry

/-- A value is stored, and the flag set. -/
def store (e : Entry) (v : ConfigValue) : Entry :=
  { e with value := v.convert e.paramType, paramSet := e.hasParamSet || e.paramSet }

/-- The flag is cleared. -/
def clear (e : Entry) : Entry := { e with paramSet := !e.hasParamSet && e.paramSet }

/-- `loc_set_config_entry`; none if it returns -1. -/
def locSetConfigEntry (e : Entry) (v : ConfigValue) : Option Entry :=
  if e.paramName = v.paramName then some (e.store v) else none

end Entry

/-! ## Lines -/

/-- The scan of `loc_util_trim_space`: whether a character other than a space was found, what was
written, and where it is cut. -/
structure Scan where
  firstNonspace : Bool
  written : List Char
  lastNonspace : Option ℕ

/-- One pass of the scan. -/
def Scan.step (s : Scan) (c : Char) : Scan :=
  let firstNonspace := s.firstNonspace || !isspace c
  if firstNonspace then
    { firstNonspace
      written := s.written ++ [c]
      lastNonspace := if isspace c then s.lastNonspace else some (s.written.length + 1) }
  else s

/-- `loc_util_trim_space`. -/
def locUtilTrimSpace (orgString : List Char) : List Char :=
  let s := orgString.foldl Scan.step ⟨false, [], none⟩
  match s.lastNonspace with
  | some n => s.written.take n
  | none => orgString

section

variable (atof : List Char → BitVec 64)

/-- The numbers of a value: in base 16 behind `0x`. -/
def configValue (paramName paramStrValue : List Char) : ConfigValue :=
  match paramStrValue with
  | '0' :: x :: c :: rest =>
      if x.toLower = 'x' then
        ⟨paramName, paramStrValue, (strtol 16 (c :: rest)).bmod (2 ^ 32), 0⟩
      else ⟨paramName, paramStrValue, atoi paramStrValue, atof paramStrValue⟩
  | _ => ⟨paramName, paramStrValue, atoi paramStrValue, atof paramStrValue⟩

/-- What `loc_fill_conf_item` makes of a line. -/
def lineValue (inputBuf : List Char) : Option ConfigValue :=
  (strtok '=' inputBuf).bind fun name =>
    (strtok '=' name.2).map fun value =>
      configValue atof (locUtilTrimSpace name.1) (locUtilTrimSpace value.1)

/-- `loc_fill_conf_item`: the table, and how many parameters were filled. -/
def locFillConfItem (inputBuf : List Char) (configTable : List Entry) : List Entry × ℕ :=
  match lineValue atof inputBuf with
  | none => (configTable, 0)
  | some v =>
      (configTable.map fun e => (e.locSetConfigEntry v).getD e,
        configTable.countP fun e => (e.locSetConfigEntry v).isSome)

/-! ## Loading -/

/-- A difference of two `uint32_t`. -/
def subUint32 (a b : ℕ) : ℕ := (a + (2 ^ 32 - b % 2 ^ 32)) % 2 ^ 32

/-- The loop of `loc_read_conf_r`. -/
def readLoop (numParams : ℕ) (confFp : List Char) (configTable : List Entry) : List Entry :=
  if numParams = 0 then configTable
  else
    match _h : fgets locMaxParamLine confFp with
    | none => configTable
    | some (inputBuf, rest) =>
        let filled := locFillConfItem atof inputBuf configTable
        readLoop (subUint32 numParams filled.2) rest filled.1
termination_by confFp.length
decreasing_by exact length_fgets (by decide) _h

/-- `loc_read_conf_r`: the table, and the return value. -/
def locReadConfR (confFp : List Char) (configTable : List Entry) : List Entry × ℤ :=
  (readLoop atof configTable.length confFp (configTable.map Entry.clear), 0)

/-- The loop of `loc_update_conf`. -/
def updateLoop (numParams : ℕ) (saveptr : List Char) (ret : ℤ) (configTable : List Entry) :
    List Entry × ℤ :=
  match h : strtok '\n' saveptr with
  | none => (configTable, ret)
  | some (inputBuf, rest) =>
      if numParams = 0 then (configTable, ret)
      else
        let filled := locFillConfItem atof inputBuf configTable
        updateLoop (subUint32 numParams filled.2) rest (ret + 1) filled.1
termination_by saveptr.length
decreasing_by exact length_strtok h

/-- `loc_update_conf`: the table, and the return value. -/
def locUpdateConf (confData : List Char) (configTable : List Entry) : List Entry × ℤ :=
  if confData = [] ∨ configTable = [] then (configTable, -1)
  else updateLoop atof (configTable.length - 1) confData 0 configTable

end

end Gps.LocCfg
