import Mathlib.Data.Rat.Floor
import Mathlib.Tactic.NormNum
import Yeti.Config.Refusing
import Yeti.Framework.Truncation
import Yeti.Hash.Cdr

/-! # Rules for listed calls

    Model of `CdrFilter.cpp`, less the parsing of rules: `insert_rule` makes a functor of a
    field, an operator and a value, and `apply_filter_rules` asks all functors.

    The duration is no field of a CDR.  Its functor compares the connect time instead, with the
    current time less the given value; the fraction is lost when that becomes a `tv_sec`.
    Doubles are rational numbers.
-/

namespace Yeti.Hash

open Config

/-! ### Types, fields and conditions -/

/-- `cmp_type_t`. -/
inductive CmpType where
  | c_type_int
  | c_type_long_long_int
  | c_type_string
  | c_type_timestamp
  | c_type_double
  deriving DecidableEq, Repr

/-- `get_cmp_type_name`. -/
def CmpType.name : CmpType → String
  | .c_type_int => "int"
  | .c_type_long_long_int => "long long int"
  | .c_type_string => "string"
  | .c_type_timestamp => "timestamp"
  | .c_type_double => "double"

/-- `get_type_by_name`. -/
def get_type_by_name (type_name : String) : Except String CmpType :=
  if type_name ∈ ["integer", "smallint", "boolean"] then .ok .c_type_int
  else if type_name = "bigint" then .ok .c_type_long_long_int
  else if type_name ∈ ["string", "varchar", "json", "inet", "numeric", "smallint[]"] then
    .ok .c_type_string
  else if type_name = "timestamp" then .ok .c_type_timestamp
  else if type_name = "double" then .ok .c_type_double
  else .error ("unsupported field type '" ++ type_name ++ "'")

/-- The number of a field in `cmp_field_t`. -/
def CmpField.index : CmpField → Nat
  | .c_field_unsupported => 0
  | .c_field_dynamic => 1
  | .c_field_duration => 2
  | .c_field_connect_time => 3
  | .c_field_attempt_num => 4

/-- `cmp_cond_t`. -/
inductive CmpCond where
  | c_cond_eq
  | c_cond_neq
  | c_cond_gt
  | c_cond_lt
  | c_cond_gte
  | c_cond_lte
  deriving DecidableEq, Repr

namespace CmpCond

/-- `get_cmp_cond_name`. -/
def name : CmpCond → String
  | c_cond_eq => "="
  | c_cond_neq => "!="
  | c_cond_gt => ">"
  | c_cond_lt => "<"
  | c_cond_gte => ">="
  | c_cond_lte => "<="

def all : List CmpCond := [c_cond_eq, c_cond_neq, c_cond_gt, c_cond_lt, c_cond_gte, c_cond_lte]

/-- `a op b`. -/
def holds {A : Type} [LinearOrder A] (cond : CmpCond) (a b : A) : Bool :=
  match cond with
  | c_cond_eq => a = b
  | c_cond_neq => a ≠ b
  | c_cond_gt => b < a
  | c_cond_lt => a < b
  | c_cond_gte => b ≤ a
  | c_cond_lte => a ≤ b

/-- `invert_condition_direction`. -/
def invert_condition_direction : CmpCond → CmpCond
  | c_cond_eq => c_cond_eq
  | c_cond_neq => c_cond_neq
  | c_cond_gt => c_cond_lt
  | c_cond_lt => c_cond_gt
  | c_cond_gte => c_cond_lte
  | c_cond_lte => c_cond_gte

end CmpCond

/-! ### Functors -/

/-- `class cmp_functor`; the pointer to the comparator is given by the condition. -/
structure CmpFunctor where
  cmp_type : CmpType
  cmp_field : CmpField
  cmp_cond : CmpCond
  dyn_field_name : String := ""
  v_int : Int := 0
  v_long_long_int : Int := 0
  v_double : ℚ := 0
  v_time : Timeval := {}
  v_string : String := ""
  deriving DecidableEq, Repr

namespace CmpFunctor

/-- Static fields with type int. -/
def ofInt (value : Int) (cmp_field : CmpField) (cmp_cond : CmpCond) : Except String CmpFunctor :=
  match cmp_field with
  | .c_field_attempt_num => .ok { cmp_type := .c_type_int, cmp_field, cmp_cond, v_int := value }
  | _ => .error ("unknown field: " ++ toString cmp_field.index)

/-- Static fields with type double.  The duration becomes a connect time; the seconds of `v_time`
    are an integer. -/
def ofDouble (now : Timeval) (value : ℚ) (cmp_field : CmpField) (cmp_cond : CmpCond) :
    Except String CmpFunctor :=
  match cmp_field with
  | .c_field_duration => .ok {
      cmp_type := .c_type_timestamp
      cmp_field := .c_field_connect_time
      cmp_cond := cmp_cond.invert_condition_direction
      v_double := value
      v_time := { tv_sec := Truncation.toInt (now.tv_sec - value) } }
  | _ => .error ("unknown field: " ++ toString cmp_field.index)

/-- Static fields with type timestamp. -/
def ofTimeval (value : Timeval) (cmp_field : CmpField) (cmp_cond : CmpCond) :
    Except String CmpFunctor :=
  match cmp_field with
  | .c_field_connect_time =>
    .ok { cmp_type := .c_type_timestamp, cmp_field, cmp_cond, v_time := value }
  | _ => .error ("unknown field: " ++ toString cmp_field.index)

/-- Dynamic fields with type int. -/
def ofDynInt (value : Int) (field_name : String) (cmp_cond : CmpCond) : CmpFunctor where
  cmp_type := .c_type_int
  cmp_field := .c_field_dynamic
  cmp_cond := cmp_cond
  dyn_field_name := field_name
  v_int := value

/-- Dynamic fields with type bigint. -/
def ofDynLongLong (value : Int) (field_name : String) (cmp_cond : CmpCond) : CmpFunctor where
  cmp_type := .c_type_long_long_int
  cmp_field := .c_field_dynamic
  cmp_cond := cmp_cond
  dyn_field_name := field_name
  v_long_long_int := value

/-- Dynamic fields with type string, which are only compared for equality. -/
def ofDynString (value : String) (field_name : String) (cmp_cond : CmpCond) :
    Except String CmpFunctor :=
  match cmp_cond with
  | .c_cond_eq | .c_cond_neq => .ok {
      cmp_type := .c_type_string
      cmp_field := .c_field_dynamic
      cmp_cond
      dyn_field_name := field_name
      v_string := value }
  | _ => .error ("condition " ++ cmp_cond.name ++ " for dynamic field " ++ field_name ++
      " is not implemented")

variable {D : Type}

/-- `TIMESTAMP_STATIC_COMPARATOR` for the connect time: not initialized without seconds. -/
def cmpConnectTime (cond : CmpCond) (cdr : Cdr D) (value : Timeval) : Bool :=
  cdr.connect_time.tv_sec ≠ 0 && cond.holds cdr.connect_time.tv_sec value.tv_sec

/-- The comparators of dynamic fields; a field of another type does not match. -/
def cmpDynamic (f : CmpFunctor) (cdr : Cdr D) : Bool :=
  match f.cmp_type, cdr.dyn_fields.lookup f.dyn_field_name with
  | .c_type_int, some (.int v) => f.cmp_cond.holds v f.v_int
  | .c_type_long_long_int, some (.int v) => f.cmp_cond.holds v f.v_long_long_int
  | .c_type_long_long_int, some (.longLong v) => f.cmp_cond.holds v f.v_long_long_int
  | .c_type_string, some (.cstr v) => f.cmp_cond.holds f.v_string v
  | _, _ => false

/-- `cmp_functor::operator()`. -/
def matches_ (f : CmpFunctor) (cdr : Cdr D) : Bool :=
  if f.cmp_field = .c_field_dynamic then f.cmpDynamic cdr
  else
    match f.cmp_type with
    | .c_type_int => f.cmp_cond.holds cdr.attempt_num f.v_int
    | .c_type_timestamp => cmpConnectTime f.cmp_cond cdr f.v_time
    -- wrong initialized
    | _ => false

end CmpFunctor

/-- `apply_filter_rules`. -/
def apply_filter_rules {D : Type} (cdr : Cdr D) (rules : List CmpFunctor) : Bool :=
  rules.all (·.matches_ cdr)

/-! ### `configure_filter` -/

/-- The maps to accelerate the parsing of rules. -/
structure FilterMaps where
  field_name2type : List (String × CmpType)
  field_name2field_type : List (String × CmpField)
  cond_name2type : List (String × CmpCond)

/-- The types of the fields, none where one of them is not supported. -/
def fieldTypes (fields : List (String × String)) : Option (List (String × CmpType)) :=
  fields.mapM fun (name, type_name) => (get_type_by_name type_name).toOption.map fun t => (name, t)

/-- `configure_filter`; `insert` keeps an earlier entry. -/
def configure_filter (df : List DynField) : Option FilterMaps := do
  let static ← fieldTypes (static_call_fields.map fun f => (f.name, f.type))
  let dynamic ← fieldTypes (df.map fun d => (d.name, d.type_name))
  return {
    field_name2type := (static ++ dynamic).foldl try_emplace []
    field_name2field_type :=
      (static_call_fields.map fun f => (f.name, f.name_type)).foldl try_emplace []
    cond_name2type := (CmpCond.all.map fun c => (c.name, c)).foldl try_emplace [] }

/-! ### `insert_rule` -/

/-- The conversions of texts; those of numbers belong to the core and to the C library. -/
structure Scanner where
  /-- `sscanf` with `"%lf"`. -/
  sscanf : String → Option ℚ
  str2int : String → Option Int
  str2longlong : String → Option Int

variable (scan : Scanner) (maps : FilterMaps) (now : Timeval)

/-- The functor of a rule. -/
def makeRule (field op value : String) : Except String CmpFunctor := do
  let some field_type := maps.field_name2type.lookup field
    | throw ("unknown field " ++ field ++ " in WHERE clause")
  let field_name_type := (maps.field_name2field_type.lookup field).getD .c_field_dynamic
  if field_name_type = .c_field_unsupported then
    throw ("field " ++ field ++ " is known but unsupported")
  let some cond_type := maps.cond_name2type.lookup op
    | throw ("unsupported operator " ++ op)
  let isDynamic := field_name_type = .c_field_dynamic
  match field_type with
  | .c_type_timestamp =>
    let some v_double := scan.sscanf value | throw ("can't cast '" ++ value ++ "' to double")
    if isDynamic then throw ("not supported dynamic field type: " ++ field_type.name)
    CmpFunctor.ofTimeval { tv_sec := Truncation.toInt v_double } field_name_type cond_type
  | .c_type_int =>
    let some v_int := scan.str2int value | throw ("can't cast '" ++ value ++ "' to integer")
    if isDynamic then return CmpFunctor.ofDynInt v_int field cond_type
    CmpFunctor.ofInt v_int field_name_type cond_type
  | .c_type_long_long_int =>
    let some v_long_long_int := scan.str2longlong value
      | throw ("can't cast '" ++ value ++ "' to long long integer")
    if isDynamic then return CmpFunctor.ofDynLongLong v_long_long_int field cond_type
    throw ("not supported static field type: " ++ field_type.name)
  | .c_type_double =>
    let some v_double := scan.sscanf value | throw ("can't cast '" ++ value ++ "' to double")
    if isDynamic then throw ("not supported dynamic field type: " ++ field_type.name)
    CmpFunctor.ofDouble now v_double field_name_type cond_type
  | .c_type_string =>
    if isDynamic then CmpFunctor.ofDynString value field cond_type
    else throw ("not supported static field type: " ++ field_type.name)

/-- `insert_rule`. -/
def insert_rule (rules : List CmpFunctor) (field op value : String) :
    Except String (List CmpFunctor) :=
  (makeRule scan maps now field op value).map fun f => rules ++ [f]

/-! ### What is claimed -/

variable {D : Type}

/-- The rule for a duration is inserted, and matches the calls that are connected and whose
    duration meets it. -/
def DurationRule (rules : List CmpFunctor) (cond : CmpCond) (value : String) (v : ℚ)
    (cdr : Cdr D) : Prop :=
  ∃ f, insert_rule scan maps now rules "duration" cond.name value = .ok (rules ++ [f]) ∧
    (f.matches_ cdr = true ↔ cdr.connect_time.timerisset = true ∧
      cond.holds ((now.tv_sec - cdr.connect_time.tv_sec : Int) : ℚ) v = true)

/-- The condition: the value has no fraction, or the duration is not next to it, or the operator
    is one that the rounding does not change. -/
def DurationExact (cond : CmpCond) (v : ℚ) (now connect : Int) : Prop :=
  connect = 0 ∨ (⌊v⌋ : ℚ) = v ∨
    (v ≤ now ∧ (now - connect ≠ ⌈v⌉ ∨ cond = .c_cond_lt ∨ cond = .c_cond_gte)) ∨
    (now < v ∧ (now - connect ≠ ⌊v⌋ ∨ cond = .c_cond_gt ∨ cond = .c_cond_lte))

/-! ### Maps -/

variable {scan maps now}

theorem lookups_of_configure_filter {df : List DynField} (h : configure_filter df = some maps) :
    maps.field_name2type.lookup "duration" = some .c_type_double ∧
      maps.field_name2field_type.lookup "duration" = some .c_field_duration ∧
      ∀ cond : CmpCond, maps.cond_name2type.lookup cond.name = some cond := by
  unfold configure_filter at h
  simp only [Option.bind_eq_bind, Option.bind_eq_some_iff, Option.pure_def, Option.some.injEq] at h
  obtain ⟨static, hstatic, dynamic, -, rfl⟩ := h
  have hduration : static.lookup "duration" = some .c_type_double := by
    have hall : (fieldTypes (static_call_fields.map fun f => (f.name, f.type))).bind
        (·.lookup "duration") = some .c_type_double := by decide
    rwa [hstatic] at hall
  refine ⟨?_, ?_, fun cond => ?_⟩
  · rw [lookup_foldl_try_emplace, List.lookup_nil, Option.none_or, List.lookup_append, hduration]
    rfl
  · rw [lookup_foldl_try_emplace]
    decide
  · rw [lookup_foldl_try_emplace]
    cases cond <;> decide

/-- The functor of a duration. -/
theorem makeRule_duration {df : List DynField} (hmaps : configure_filter df = some maps)
    (cond : CmpCond) {value : String} {v : ℚ} (hscan : scan.sscanf value = some v) :
    makeRule scan maps now "duration" cond.name value =
      CmpFunctor.ofDouble now v .c_field_duration cond := by
  obtain ⟨htype, hfield, hcond⟩ := lookups_of_configure_filter hmaps
  unfold makeRule
  simp [htype, hfield, hcond, hscan]

/-! ### Rounding -/

/-- Without a fraction the comparison is turned around. -/
theorem holds_toInt_of_floor_eq (cond : CmpCond) {v : ℚ} (hv : (⌊v⌋ : ℚ) = v) (now connect : Int) :
    cond.invert_condition_direction.holds connect (Truncation.toInt ((now : ℚ) - v)) =
      cond.holds ((now - connect : Int) : ℚ) v := by
  have hthreshold : Truncation.toInt ((now : ℚ) - v) = now - ⌊v⌋ := by
    rcases le_or_gt v now with hle | hlt
    · rw [Truncation.toInt_intCast_sub_of_le hle, ← hv, Int.ceil_intCast, Int.floor_intCast]
    · exact Truncation.toInt_intCast_sub_of_gt hlt
  rw [hthreshold, ← hv, Int.floor_intCast]
  generalize ⌊v⌋ = n
  cases cond <;> simp only [CmpCond.invert_condition_direction, CmpCond.holds, Int.cast_lt,
    Int.cast_le, Int.cast_inj, ne_eq, decide_eq_decide] <;> omega

/-- A value with a fraction compares with integers like the middle between its neighbours. -/
theorem holds_intCast_of_floor_ne (cond : CmpCond) {v : ℚ} (hv : (⌊v⌋ : ℚ) ≠ v) (d : Int) :
    cond.holds (d : ℚ) v = cond.holds (2 * d) (2 * ⌊v⌋ + 1) := by
  have hne := Truncation.intCast_ne hv d
  have hlt := Truncation.intCast_lt_iff hv d
  have hle : (d : ℚ) ≤ v ↔ d ≤ ⌊v⌋ := Int.le_floor.symm
  have hgt : v < d ↔ ⌊v⌋ < d := Int.floor_lt.symm
  have hge := Truncation.le_intCast_iff hv d
  generalize ⌊v⌋ = n at hlt hle hgt hge
  cases cond <;> simp only [CmpCond.holds, decide_eq_decide, ne_eq, hne, hlt, hle, hgt, hge,
    false_iff, not_false_eq_true, true_iff] <;> omega

/-- With a fraction the durations next to the value decide. -/
theorem holds_toInt_iff (cond : CmpCond) {v : ℚ} (hv : (⌊v⌋ : ℚ) ≠ v) (now connect : Int) :
    cond.invert_condition_direction.holds connect (Truncation.toInt ((now : ℚ) - v)) =
        cond.holds ((now - connect : Int) : ℚ) v ↔
      (v ≤ now ∧ (now - connect ≠ ⌈v⌉ ∨ cond = .c_cond_lt ∨ cond = .c_cond_gte)) ∨
        (now < v ∧ (now - connect ≠ ⌊v⌋ ∨ cond = .c_cond_gt ∨ cond = .c_cond_lte)) := by
  have hceil := Truncation.ceil_eq hv
  rw [holds_intCast_of_floor_ne cond hv]
  -- the difference is rounded towards zero: down before the value, up after it
  rcases le_or_gt v now with hle | hlt
  · have hnot : ¬ (now : ℚ) < v := not_lt.mpr hle
    rw [Truncation.toInt_intCast_sub_of_le hle, hceil]
    generalize ⌊v⌋ = n
    cases cond <;> simp only [CmpCond.invert_condition_direction, CmpCond.holds, decide_eq_decide,
      hle, hnot, ne_eq, reduceCtorEq, true_and, false_and, or_false, or_true, iff_true] <;> omega
  · have hnot : ¬ v ≤ (now : ℚ) := not_le.mpr hlt
    rw [Truncation.toInt_intCast_sub_of_gt hlt]
    generalize ⌊v⌋ = n
    cases cond <;> simp only [CmpCond.invert_condition_direction, CmpCond.holds, decide_eq_decide,
      hlt, hnot, ne_eq, reduceCtorEq, true_and, false_and, or_false, false_or, or_true, iff_true] <;>
      omega

/-! ### Main result -/

variable {rules : List CmpFunctor} {cond : CmpCond} {value : String} {v : ℚ} {cdr : Cdr D}

/-- The functor of a duration compares the connect time. -/
theorem durationRule_iff_holds {df : List DynField} (hmaps : configure_filter df = some maps)
    (hscan : scan.sscanf value = some v) (hconnect : cdr.connect_time.tv_usec = 0) :
    DurationRule scan maps now rules cond value v cdr ↔ cdr.connect_time.tv_sec = 0 ∨
      cond.invert_condition_direction.holds cdr.connect_time.tv_sec
          (Truncation.toInt ((now.tv_sec : ℚ) - v)) =
        cond.holds ((now.tv_sec - cdr.connect_time.tv_sec : Int) : ℚ) v := by
  have hset : cdr.connect_time.timerisset = true ↔ cdr.connect_time.tv_sec ≠ 0 := by
    simp [Timeval.timerisset, hconnect]
  have hinsert (f : CmpFunctor) :
      insert_rule scan maps now rules "duration" cond.name value = .ok (rules ++ [f]) ↔
        CmpFunctor.ofDouble now v .c_field_duration cond = .ok f := by
    rw [insert_rule, makeRule_duration hmaps cond hscan]
    simp [CmpFunctor.ofDouble, Except.map]
  unfold DurationRule
  simp only [hinsert, hset, CmpFunctor.ofDouble, Except.ok.injEq, exists_eq_left',
    CmpFunctor.matches_, CmpFunctor.cmpConnectTime, reduceCtorEq, if_false, Bool.and_eq_true,
    decide_eq_true_eq]
  by_cases hzero : cdr.connect_time.tv_sec = 0
  · -- a call that is not connected never matches, as it should be
    simp [hzero]
  · rw [or_iff_right hzero, and_iff_right hzero, and_iff_right hzero]
    exact Bool.eq_iff_iff.symm

namespace RuleExample

/-- Texts are read as they are needed here. -/
def scanner : Scanner where
  sscanf s := if s = "8.5" then some (17 / 2) else none
  str2int := String.toInt?
  str2longlong := String.toInt?

/-- The maps without dynamic fields. -/
def staticMaps : FilterMaps := (configure_filter []).get (by decide)

/-- A call that was connected in the first second. -/
def connectedCdr : Cdr Int := { connect_time := ⟨1, 0⟩ }

theorem configure_staticMaps : configure_filter [] = some staticMaps :=
  (Option.some_get _).symm

theorem toInt_threshold : Truncation.toInt (((10 : Int) : ℚ) - 17 / 2) = 1 := by
  have hceil : ⌈(17 / 2 : ℚ)⌉ = 9 := by
    rw [Int.ceil_eq_iff]
    norm_num
  rw [Truncation.toInt_intCast_sub_of_le (by norm_num), hceil]
  rfl

end RuleExample

end Yeti.Hash
