import Mathlib.Data.String.Basic
import Yeti.Framework.Listings
import Yeti.Resources.Resource

/-! # The listed fields of a CDR

    The part of `struct Cdr` that the listings of active calls read, and the dynamic fields,
    whose names and types the database defines (`load_interface_out`).

    Times are printed and turned into doubles by the core, and `cJSON` prints arrays of objects;
    they are parameters (`Core`).
-/

namespace Yeti.Hash

open Resources

/-! ### Values -/

/-- `struct timeval`. -/
structure Timeval where
  tv_sec : Int := 0
  tv_usec : Int := 0
  deriving DecidableEq, Repr

namespace Timeval

def timerisset (t : Timeval) : Bool := t.tv_sec ≠ 0 || t.tv_usec ≠ 0

def timersub (a b : Timeval) : Timeval :=
  if a.tv_usec - b.tv_usec < 0 then
    ⟨a.tv_sec - b.tv_sec - 1, a.tv_usec - b.tv_usec + 1000000⟩
  else ⟨a.tv_sec - b.tv_sec, a.tv_usec - b.tv_usec⟩

end Timeval

/-- `class AmArg`, with doubles of the type `D`. -/
inductive AmArg (D : Type) where
  | undef
  | int (v : Int)
  | longLong (v : Int)
  | bool (v : Bool)
  | double (v : D)
  | cstr (v : String)
  | array (items : List (AmArg D))
  | struct (fields : List (String × AmArg D))

/-- What belongs to other modules. -/
structure Core (D : Type) where
  timeval2double : Timeval → D
  timeval2str : Timeval → String
  /-- `strftime` with `"%F"` of the local time. -/
  date : Int → String
  /-- The same with `"%F %T"`. -/
  dateTime : Int → String
  zero : D
  isNegative : D → Bool
  /-- An array of objects with number fields. -/
  cJSON_PrintUnformatted : List (List (String × Int)) → String
  /-- `AmArg::print` of an array of strings. -/
  print : List String → String

/-! ### Dynamic fields -/

/-- `DynField::type`. -/
inductive DynField.Kind where
  | VARCHAR
  | INTEGER
  | BIGINT
  | BOOL
  | INET
  deriving DecidableEq, Repr

/-- `struct DynField`. -/
structure DynField where
  name : String
  type_name : String
  deriving DecidableEq, Repr

/-- What the constructor of `DynField` makes of the name of the type. -/
def DynField.type_id (d : DynField) : DynField.Kind :=
  if d.type_name = "varchar" then .VARCHAR
  else if d.type_name = "integer" ∨ d.type_name = "smallint" then .INTEGER
  else if d.type_name = "bigint" then .BIGINT
  else if d.type_name = "boolean" then .BOOL
  else if d.type_name = "inet" then .INET
  -- unhandled types are considered as varchar
  else .VARCHAR

/-! ### Static fields -/

/-- `cmp_field_t`. -/
inductive CmpField where
  | c_field_unsupported
  | c_field_dynamic
  | c_field_duration
  | c_field_connect_time
  | c_field_attempt_num
  deriving DecidableEq, Repr

/-- `static_call_field`. -/
structure StaticCallField where
  name : String
  type : String
  name_type : CmpField
  deriving DecidableEq, Repr

/-- `static_call_fields`. -/
def static_call_fields : List StaticCallField :=
  [⟨"node_id", "integer", .c_field_unsupported⟩,
    ⟨"pop_id", "integer", .c_field_unsupported⟩,
    ⟨"local_time", "timestamp", .c_field_unsupported⟩,
    ⟨"cdr_born_time", "timestamp", .c_field_unsupported⟩,
    ⟨"start_time", "timestamp", .c_field_unsupported⟩,
    ⟨"connect_time", "timestamp", .c_field_connect_time⟩,
    ⟨"end_time", "timestamp", .c_field_unsupported⟩,
    ⟨"duration", "double", .c_field_duration⟩,
    ⟨"attempt_num", "integer", .c_field_attempt_num⟩,
    ⟨"resources", "string", .c_field_unsupported⟩,
    ⟨"active_resources", "string", .c_field_unsupported⟩,
    ⟨"active_resources_json", "string", .c_field_unsupported⟩,
    ⟨"legB_remote_port", "integer", .c_field_unsupported⟩,
    ⟨"legB_local_port", "integer", .c_field_unsupported⟩,
    ⟨"legA_remote_port", "integer", .c_field_unsupported⟩,
    ⟨"legA_local_port", "integer", .c_field_unsupported⟩,
    ⟨"legB_remote_ip", "string", .c_field_unsupported⟩,
    ⟨"legB_local_ip", "string", .c_field_unsupported⟩,
    ⟨"legA_remote_ip", "string", .c_field_unsupported⟩,
    ⟨"legA_local_ip", "string", .c_field_unsupported⟩,
    ⟨"orig_call_id", "string", .c_field_unsupported⟩,
    ⟨"term_call_id", "string", .c_field_unsupported⟩,
    ⟨"local_tag", "string", .c_field_unsupported⟩,
    ⟨"global_tag", "string", .c_field_unsupported⟩,
    ⟨"time_limit", "integer", .c_field_unsupported⟩,
    ⟨"dump_level_id", "integer", .c_field_unsupported⟩,
    ⟨"audio_record_enabled", "integer", .c_field_unsupported⟩,
    ⟨"versions", "json", .c_field_unsupported⟩]

/-! ### CDRs -/

/-- `active_resources_clickhouse`, `none` where it is no struct. -/
structure ClickhouseResources (D : Type) where
  fields : Option (List (String × AmArg D)) := some []
  named : ∀ entries ∈ fields, ∀ e ∈ entries, "active_resource_".toList <+: e.1.toList := by
    intro entries hentries e he
    cases hentries
    cases he

/-- A struct without fields. -/
def ClickhouseResources.empty {D : Type} : ClickhouseResources D := {}

/-- `struct Cdr`. -/
structure Cdr (D : Type) where
  cdr_born_time : Timeval := {}
  start_time : Timeval := {}
  connect_time : Timeval := {}
  end_time : Timeval := {}
  attempt_num : Int := 1
  dump_level_id : Int := 0
  audio_record_enabled : Bool := false
  disconnect_initiator : Int := 0
  disconnect_reason : String := ""
  disconnect_code : Int := 0
  disconnect_internal_reason : String := "Unhandled sequence"
  disconnect_internal_code : Int := 0
  legB_remote_ip : String := ""
  legB_local_ip : String := ""
  legB_remote_port : Int := 0
  legB_local_port : Int := 0
  legA_remote_ip : String := ""
  legA_local_ip : String := ""
  legA_remote_port : Int := 0
  legA_local_port : Int := 0
  orig_call_id : String := ""
  term_call_id : String := ""
  local_tag : String := ""
  global_tag : String := ""
  time_limit : Int := 0
  dyn_fields : List (String × AmArg D) := []
  resources : String := ""
  active_resources : String := "[]"
  active_resources_amarg : AmArg D := .array []
  active_resources_clickhouse : ClickhouseResources D := .empty

variable {D : Type}

/-- `dyn_fields[fname]`. -/
def Cdr.dynField (cdr : Cdr D) (fname : String) : AmArg D :=
  (cdr.dyn_fields.lookup fname).elim .undef id

/-! ### Active resources -/

namespace ClickhouseResources

/-- The key of a field of the resources of a type. -/
def key (type : Int) (field : String) : String := "active_resource_" ++ toString type ++ field

theorem prefix_key (type : Int) (field : String) :
    "active_resource_".toList <+: (key type field).toList := by
  unfold key
  rw [String.toList_append, String.toList_append, List.append_assoc]
  exact List.prefix_append _ _

/-- A reference to the field, assigned to when it is not set yet. -/
def setUnset (m : List (String × AmArg D)) (key : String) (v : Int) : List (String × AmArg D) :=
  if (m.lookup key).isSome then m else Assoc.set m key (.int v)

/-- What one active resource sets. -/
def add (m : List (String × AmArg D)) (r : Resource) : List (String × AmArg D) :=
  setUnset (setUnset (setUnset m (key r.type "_id") r.id) (key r.type "_limit") r.limit)
    (key r.type "_used") r.takes

theorem named_setUnset {m : List (String × AmArg D)}
    (h : ∀ e ∈ m, "active_resource_".toList <+: e.1.toList) (type : Int) (field : String)
    (v : Int) :
    ∀ e ∈ setUnset m (key type field) v, "active_resource_".toList <+: e.1.toList := by
  unfold setUnset
  split_ifs
  · exact h
  · intro e he
    rcases Assoc.mem_set.mp he with rfl | ⟨hold, -⟩
    · exact prefix_key type field
    · exact h e hold

theorem named_add {m : List (String × AmArg D)}
    (h : ∀ e ∈ m, "active_resource_".toList <+: e.1.toList) (r : Resource) :
    ∀ e ∈ add m r, "active_resource_".toList <+: e.1.toList :=
  named_setUnset (named_setUnset (named_setUnset h _ _ _) _ _ _) _ _ _

theorem named_foldl_add (rs : List Resource) {m : List (String × AmArg D)}
    (h : ∀ e ∈ m, "active_resource_".toList <+: e.1.toList) :
    ∀ e ∈ rs.foldl add m, "active_resource_".toList <+: e.1.toList := by
  induction rs generalizing m with
  | nil => exact h
  | cons r rs ih => exact ih (named_add h r)

/-- The fields for a list of active resources. -/
def ofResources (rs : List Resource) : ClickhouseResources D where
  fields := some (rs.foldl add [])
  named := by
    intro entries hentries
    rw [← Option.some.inj hentries]
    exact named_foldl_add rs (by simp)

end ClickhouseResources

/-- `Cdr::update_with_resource_list`. -/
def Cdr.update_with_resource_list (core : Core D) (cdr : Cdr D) (rl : List Resource) : Cdr D :=
  if rl.isEmpty then cdr
  else
    let active := rl.filter (·.active)
    let object (r : Resource) : List (String × Int) :=
      [("type", r.type), ("id", r.id), ("takes", r.takes), ("limit", r.limit)]
    { cdr with
      active_resources_amarg := .array (active.map fun r =>
        .struct (Listing.assign [] ((object r).map fun (key, v) => (key, .int v))))
      active_resources_clickhouse := ClickhouseResources.ofResources active
      active_resources := core.cJSON_PrintUnformatted (active.map object) }

end Yeti.Hash
