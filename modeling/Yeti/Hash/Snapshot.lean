import Yeti.Hash.Cdr

/-! # Snapshots of active calls

    Model of `Cdr::snapshot_info` and of `Cdr::snapshot_info_filtered`, which lists only the
    wanted fields.  Both are given by the assignments `s[key] = value` that they make.

    In the filtered one, macros paste the names of the keys together.  Inside of
    `filter(active_resources)` stands `add_field_as(active_resources_key,active_resources)`,
    which asks for the field `active_resources_key` and writes a field of that name.
-/

namespace Yeti.Hash

variable {D : Type} (core : Core D) (cdr : Cdr D) (df : List DynField)
variable (wanted_fields : List String)

/-! ### All fields -/

/-- `timerisset(&val) ? timeval2str(val) : AmArg()`. -/
def Core.timevalField (t : Timeval) : AmArg D :=
  if t.timerisset then .cstr (core.timeval2str t) else .undef

namespace Cdr

/-- The fields before the active resources. -/
def staticEntries : List (String × AmArg D) :=
  [("cdr_born_time", core.timevalField cdr.cdr_born_time),
    ("start_time", core.timevalField cdr.start_time),
    ("connect_time", core.timevalField cdr.connect_time),
    ("start_date", .cstr (core.date cdr.start_time.tv_sec)),
    ("legB_remote_port", .int cdr.legB_remote_port),
    ("legB_local_port", .int cdr.legB_local_port),
    ("legA_remote_port", .int cdr.legA_remote_port),
    ("legA_local_port", .int cdr.legA_local_port),
    ("legB_remote_ip", .cstr cdr.legB_remote_ip),
    ("legB_local_ip", .cstr cdr.legB_local_ip),
    ("legA_remote_ip", .cstr cdr.legA_remote_ip),
    ("legA_local_ip", .cstr cdr.legA_local_ip),
    ("orig_call_id", .cstr cdr.orig_call_id),
    ("term_call_id", .cstr cdr.term_call_id),
    ("local_tag", .cstr cdr.local_tag),
    ("global_tag", .cstr cdr.global_tag),
    ("time_limit", .int cdr.time_limit),
    ("dump_level_id", .int cdr.dump_level_id),
    ("audio_record_enabled", .int (if cdr.audio_record_enabled then 1 else 0)),
    ("attempt_num", .int cdr.attempt_num),
    ("resources", .cstr cdr.resources)]

/-- The fields of `active_resources_clickhouse`. -/
def clickhouseEntries : List (String × AmArg D) :=
  cdr.active_resources_clickhouse.fields.getD []

/-- The dynamic fields.  Booleans are cast to numbers, a field of that type with another value is
    passed over. -/
def dynamicEntries : List (String × AmArg D) :=
  df.filterMap fun d =>
    match d.type_id, cdr.dynField d.name with
    | .BOOL, .bool v => some (d.name, .int (if v then 1 else 0))
    | .BOOL, _ => none
    | _, f => some (d.name, f)

/-- The assignments of `snapshot_info`. -/
def snapshotEntries : List (String × AmArg D) :=
  cdr.staticEntries core ++ [("active_resources", .cstr cdr.active_resources)] ++
    cdr.clickhouseEntries ++ cdr.dynamicEntries df

/-- `Cdr::snapshot_info`. -/
def snapshot_info (s : List (String × AmArg D)) : List (String × AmArg D) :=
  Listing.assign s (cdr.snapshotEntries core df)

end Cdr

/-! ### Wanted fields -/

/-- `filter(name)`. -/
def filter (name : String) (entries : List (String × AmArg D)) : List (String × AmArg D) :=
  if name ∈ wanted_fields then entries else []

/-- `add_field` and `add_field_as`. -/
def add_field (name : String) (val : AmArg D) : List (String × AmArg D) :=
  filter wanted_fields name [(name, val)]

namespace Cdr

/-- The fields before the active resources; `start_date` is not asked for. -/
def staticEntriesFiltered : List (String × AmArg D) :=
  add_field wanted_fields "cdr_born_time" (core.timevalField cdr.cdr_born_time) ++
  add_field wanted_fields "start_time" (core.timevalField cdr.start_time) ++
  add_field wanted_fields "connect_time" (core.timevalField cdr.connect_time) ++
  [("start_date", .cstr (core.date cdr.start_time.tv_sec))] ++
  add_field wanted_fields "legB_remote_port" (.int cdr.legB_remote_port) ++
  add_field wanted_fields "legB_local_port" (.int cdr.legB_local_port) ++
  add_field wanted_fields "legA_remote_port" (.int cdr.legA_remote_port) ++
  add_field wanted_fields "legA_local_port" (.int cdr.legA_local_port) ++
  add_field wanted_fields "legB_remote_ip" (.cstr cdr.legB_remote_ip) ++
  add_field wanted_fields "legB_local_ip" (.cstr cdr.legB_local_ip) ++
  add_field wanted_fields "legA_remote_ip" (.cstr cdr.legA_remote_ip) ++
  add_field wanted_fields "legA_local_ip" (.cstr cdr.legA_local_ip) ++
  add_field wanted_fields "orig_call_id" (.cstr cdr.orig_call_id) ++
  add_field wanted_fields "term_call_id" (.cstr cdr.term_call_id) ++
  add_field wanted_fields "local_tag" (.cstr cdr.local_tag) ++
  add_field wanted_fields "global_tag" (.cstr cdr.global_tag) ++
  add_field wanted_fields "time_limit" (.int cdr.time_limit) ++
  add_field wanted_fields "dump_level_id" (.int cdr.dump_level_id) ++
  add_field wanted_fields "audio_record_enabled"
    (.int (if cdr.audio_record_enabled then 1 else 0)) ++
  add_field wanted_fields "attempt_num" (.int cdr.attempt_num) ++
  add_field wanted_fields "resources" (.cstr cdr.resources)

/-- The wanted dynamic fields. -/
def dynamicEntriesFiltered : List (String × AmArg D) :=
  df.filterMap fun d =>
    match d.type_id, cdr.dynField d.name with
    | .BOOL, .bool v =>
      if d.name ∈ wanted_fields then some (d.name, .int (if v then 1 else 0)) else none
    | .BOOL, _ => none
    | _, f => if d.name ∈ wanted_fields then some (d.name, f) else none

/-- The assignments of `snapshot_info_filtered`. -/
def snapshotEntriesFiltered : List (String × AmArg D) :=
  cdr.staticEntriesFiltered core wanted_fields ++
    -- the macros give the name `active_resources_key` to the inner field
    filter wanted_fields "active_resources"
      (add_field wanted_fields "active_resources_key" (.cstr cdr.active_resources) ++
        cdr.clickhouseEntries) ++
    cdr.dynamicEntriesFiltered df wanted_fields

/-- `Cdr::snapshot_info_filtered`. -/
def snapshot_info_filtered (s : List (String × AmArg D)) : List (String × AmArg D) :=
  Listing.assign s (cdr.snapshotEntriesFiltered core df wanted_fields)

/-! ### What is claimed -/

/-- The fields that the filtered snapshot should have. -/
def Wanted (key : String) : Prop :=
  key ∈ wanted_fields ∨ key = "start_date" ∨
    ("active_resources" ∈ wanted_fields ∧ key ∈ cdr.clickhouseEntries.map Prod.fst)

instance (key : String) : Decidable (cdr.Wanted wanted_fields key) :=
  inferInstanceAs (Decidable (_ ∨ _ ∨ _ ∧ _))

/-- The filtered snapshot has the wanted fields of the whole one and no others. -/
def SnapshotRestricts : Prop :=
  ∀ key, (cdr.snapshot_info_filtered core df wanted_fields []).lookup key =
    if cdr.Wanted wanted_fields key then (cdr.snapshot_info core df []).lookup key else none

/-- The condition.  Only a dynamic field called `active_resources` makes up for the one that is
    not written, and one called like a field of the active resources for the fields that are
    only written with it. -/
structure DynamicCovers : Prop where
  start_date : "start_date" ∈ wanted_fields ∨
    ∀ v, Listing.last (cdr.dynamicEntries df) "start_date" = some v →
      v = .cstr (core.date cdr.start_time.tv_sec)
  not_active : "active_resources" ∉ wanted_fields →
    ∀ key ∈ cdr.clickhouseEntries.map Prod.fst, key ∈ wanted_fields →
      key ∈ (cdr.dynamicEntries df).map Prod.fst
  active : "active_resources" ∈ wanted_fields →
    "active_resources" ∈ (cdr.dynamicEntries df).map Prod.fst ∧
    ("active_resources_key" ∈ wanted_fields →
      "active_resources_key" ∈ (cdr.dynamicEntries df).map Prod.fst) ∧
    ∀ key ∈ cdr.clickhouseEntries.map Prod.fst, key ∉ wanted_fields →
      ∀ v, Listing.last (cdr.dynamicEntries df) key = some v →
        Listing.last cdr.clickhouseEntries key = some v

/-! ### Keys -/

/-- The keys of the fields before the active resources. -/
def staticKeys : List String :=
  ["cdr_born_time", "start_time", "connect_time", "start_date", "legB_remote_port",
    "legB_local_port", "legA_remote_port", "legA_local_port", "legB_remote_ip", "legB_local_ip",
    "legA_remote_ip", "legA_local_ip", "orig_call_id", "term_call_id", "local_tag", "global_tag",
    "time_limit", "dump_level_id", "audio_record_enabled", "attempt_num", "resources"]

/-- No other key starts like those of the active resources. -/
theorem not_prefix_of_mem : ∀ key ∈ "active_resources" :: "active_resources_key" :: staticKeys,
    ¬ "active_resource_".toList <+: key.toList := by
  decide

variable {cdr} in
theorem prefix_of_mem_clickhouse {key : String} (h : key ∈ cdr.clickhouseEntries.map Prod.fst) :
    "active_resource_".toList <+: key.toList := by
  unfold clickhouseEntries at h
  cases hfields : cdr.active_resources_clickhouse.fields with
  | none =>
    rw [hfields] at h
    cases h
  | some entries =>
    rw [hfields] at h
    obtain ⟨e, he, rfl⟩ := List.mem_map.mp h
    exact cdr.active_resources_clickhouse.named entries hfields e he

theorem last_clickhouse_eq_none {key : String}
    (h : key ∈ "active_resources" :: "active_resources_key" :: staticKeys) :
    Listing.last cdr.clickhouseEntries key = none :=
  Listing.last_eq_none_iff.mpr fun hmem =>
    not_prefix_of_mem key h (prefix_of_mem_clickhouse hmem)

theorem last_static_eq_none {key : String} (h : key ∉ staticKeys) :
    Listing.last (cdr.staticEntries core) key = none :=
  Listing.last_eq_none_iff.mpr h

variable {cdr} in
/-- The fields of the active resources are written by nothing else but dynamic fields. -/
theorem own_of_mem_clickhouse {key : String} (h : key ∈ cdr.clickhouseEntries.map Prod.fst) :
    key ≠ "active_resources" ∧ key ≠ "active_resources_key" ∧ key ≠ "start_date" ∧
      Listing.last (cdr.staticEntries core) key = none := by
  have hother : key ∉ "active_resources" :: "active_resources_key" :: staticKeys :=
    fun hmem => not_prefix_of_mem key hmem (prefix_of_mem_clickhouse h)
  rw [List.mem_cons, List.mem_cons, not_or, not_or] at hother
  obtain ⟨hactive, hpasted, hstatic⟩ := hother
  refine ⟨hactive, hpasted, ?_, last_static_eq_none core cdr hstatic⟩
  rintro rfl
  exact hstatic (by decide)

/-! ### The listings -/

theorem staticEntriesFiltered_eq : cdr.staticEntriesFiltered core wanted_fields =
    (cdr.staticEntries core).filter fun e => e.1 ∈ wanted_fields ∨ e.1 = "start_date" := by
  have hadd : ∀ (name : String) (val : AmArg D), name ≠ "start_date" →
      add_field wanted_fields name val =
        [(name, val)].filter fun e => e.1 ∈ wanted_fields ∨ e.1 = "start_date" := by
    intro name val hname
    simp only [add_field, filter, List.filter_cons, List.filter_nil, hname, or_false,
      decide_eq_true_eq]
  have hdate : ∀ val : AmArg D, [("start_date", val)] =
      [("start_date", val)].filter fun e => e.1 ∈ wanted_fields ∨ e.1 = "start_date" := by
    intro val
    simp
  unfold staticEntriesFiltered staticEntries
  rw [hdate]
  simp (disch := decide) only [hadd]
  simp only [← List.filter_append, List.cons_append, List.nil_append]

theorem dynamicEntriesFiltered_eq : cdr.dynamicEntriesFiltered df wanted_fields =
    (cdr.dynamicEntries df).filter fun e => e.1 ∈ wanted_fields := by
  unfold dynamicEntriesFiltered dynamicEntries
  rw [List.filter_filterMap]
  refine List.filterMap_congr fun d _ => ?_
  by_cases hwanted : d.name ∈ wanted_fields
  · cases d.type_id <;> cases cdr.dynField d.name <;> simp [hwanted, Option.filter]
  · cases d.type_id <;> cases cdr.dynField d.name <;> simp [hwanted, Option.filter]

variable {cdr df} in
theorem exists_of_mem_dynamicEntries {key : String}
    (h : key ∈ (cdr.dynamicEntries df).map Prod.fst) : ∃ d ∈ df, d.name = key := by
  obtain ⟨e, he, rfl⟩ := List.mem_map.mp h
  obtain ⟨d, hd, hentry⟩ := List.mem_filterMap.mp he
  refine ⟨d, hd, ?_⟩
  split at hentry <;> cases hentry <;> rfl

theorem last_snapshotEntries (key : String) :
    Listing.last (cdr.snapshotEntries core df) key =
      (Listing.last (cdr.dynamicEntries df) key).or ((Listing.last cdr.clickhouseEntries key).or
        ((if key = "active_resources" then some (.cstr cdr.active_resources) else none).or
          (Listing.last (cdr.staticEntries core) key))) := by
  unfold snapshotEntries
  rw [Listing.last_append, Listing.last_append, Listing.last_append, Listing.last_singleton]

/-- Nothing is ever written to `active_resources`. -/
theorem last_snapshotEntriesFiltered (key : String) :
    Listing.last (cdr.snapshotEntriesFiltered core df wanted_fields) key =
      (if key ∈ wanted_fields then Listing.last (cdr.dynamicEntries df) key else none).or
        ((if "active_resources" ∈ wanted_fields then (Listing.last cdr.clickhouseEntries key).or
            (if "active_resources_key" ∈ wanted_fields ∧ key = "active_resources_key" then
              some (.cstr cdr.active_resources) else none)
          else none).or
        (if key ∈ wanted_fields ∨ key = "start_date" then
          Listing.last (cdr.staticEntries core) key else none)) := by
  unfold snapshotEntriesFiltered
  rw [Listing.last_append, Listing.last_append, dynamicEntriesFiltered_eq,
    staticEntriesFiltered_eq, Listing.last_filter (fun key => key ∈ wanted_fields),
    Listing.last_filter (fun key => key ∈ wanted_fields ∨ key = "start_date")]
  simp only [decide_eq_true_eq]
  -- what is left are the fields of the active resources
  congr 2
  unfold filter add_field filter
  by_cases hactive : "active_resources" ∈ wanted_fields
  · rw [if_pos hactive, if_pos hactive, Listing.last_append]
    by_cases hkey : "active_resources_key" ∈ wanted_fields
    · simp [hkey, Listing.last_singleton]
    · simp [hkey]
  · rw [if_neg hactive, if_neg hactive, Listing.last_nil]

/-! ### Main result -/

theorem snapshotRestricts_iff_last : cdr.SnapshotRestricts core df wanted_fields ↔
    ∀ key, Listing.last (cdr.snapshotEntriesFiltered core df wanted_fields) key =
      if cdr.Wanted wanted_fields key then Listing.last (cdr.snapshotEntries core df) key
      else none := by
  unfold SnapshotRestricts snapshot_info snapshot_info_filtered
  simp only [Listing.lookup_assign, List.lookup_nil, Option.or_none]

variable {core cdr df wanted_fields}

theorem SnapshotRestricts.dynamicCovers (h : cdr.SnapshotRestricts core df wanted_fields) :
    cdr.DynamicCovers core df wanted_fields := by
  rw [snapshotRestricts_iff_last] at h
  constructor
  case start_date =>
    refine or_iff_not_imp_left.mpr fun hwanted v hv => ?_
    have hkey := h "start_date"
    have hdate : Listing.last (cdr.staticEntries core) "start_date" =
        some (.cstr (core.date cdr.start_time.tv_sec)) := rfl
    rw [last_snapshotEntries, last_snapshotEntriesFiltered,
      last_clickhouse_eq_none cdr (by decide), hv, hdate] at hkey
    simpa [Wanted, hwanted, eq_comm] using hkey
  case not_active =>
    intro hactive key hmem hwanted
    -- only the full snapshot has the field then
    by_contra hdynamic
    have hkey := h key
    obtain ⟨-, -, -, hstatic⟩ := own_of_mem_clickhouse core hmem
    rw [last_snapshotEntries, last_snapshotEntriesFiltered, hstatic,
      Listing.last_eq_none_iff.mpr hdynamic] at hkey
    have hnone : Listing.last cdr.clickhouseEntries key = none := by
      simp only [Wanted, hwanted, hactive, if_true, if_false, true_or, Option.none_or] at hkey
      exact (Option.or_eq_none_iff.mp hkey.symm).1
    exact Listing.last_eq_none_iff.mp hnone hmem
  case active =>
    intro hactive
    refine ⟨?_, fun hpasted => ?_, fun key hmem hwanted v hv => ?_⟩
    · by_contra hdynamic
      have hkey := h "active_resources"
      rw [last_snapshotEntries, last_snapshotEntriesFiltered,
        last_clickhouse_eq_none cdr (by decide), Listing.last_eq_none_iff.mpr hdynamic,
        last_static_eq_none core cdr (by decide)] at hkey
      simp [Wanted, hactive] at hkey
    · by_contra hdynamic
      have hkey := h "active_resources_key"
      rw [last_snapshotEntries, last_snapshotEntriesFiltered,
        last_clickhouse_eq_none cdr (by decide), Listing.last_eq_none_iff.mpr hdynamic,
        last_static_eq_none core cdr (by decide)] at hkey
      simp [Wanted, hactive, hpasted] at hkey
    · -- the filtered snapshot has the value of the resources, the full one the dynamic one
      have hkey := h key
      obtain ⟨hother, hpasted, hdate, hstatic⟩ := own_of_mem_clickhouse core hmem
      rw [last_snapshotEntries, last_snapshotEntriesFiltered, hstatic, hv] at hkey
      simpa [Wanted, hwanted, hactive, hmem, hpasted] using hkey

theorem last_eq_some_of_mem {entries : List (String × AmArg D)} {key : String}
    (h : key ∈ entries.map Prod.fst) : ∃ v, Listing.last entries key = some v :=
  Option.ne_none_iff_exists'.mp fun hnone => Listing.last_eq_none_iff.mp hnone h

/-- A field of the active resources. -/
theorem DynamicCovers.last_eq_of_mem (h : cdr.DynamicCovers core df wanted_fields) {key : String}
    (hmem : key ∈ cdr.clickhouseEntries.map Prod.fst) :
    Listing.last (cdr.snapshotEntriesFiltered core df wanted_fields) key =
      if cdr.Wanted wanted_fields key then Listing.last (cdr.snapshotEntries core df) key
      else none := by
  obtain ⟨hother, hpasted, hdate, hstatic⟩ := own_of_mem_clickhouse core hmem
  obtain ⟨a, ha⟩ := last_eq_some_of_mem hmem
  rw [last_snapshotEntries, last_snapshotEntriesFiltered, hstatic, ha]
  by_cases hactive : "active_resources" ∈ wanted_fields
  · by_cases hwanted : key ∈ wanted_fields
    · simp [Wanted, hactive, hwanted]
    · -- a dynamic field of that name must not change the value
      cases hv : Listing.last (cdr.dynamicEntries df) key with
      | none => simp [Wanted, hactive, hwanted, hmem]
      | some v =>
        have hsame := (h.active hactive).2.2 key hmem hwanted v hv
        rw [ha] at hsame
        simp [Wanted, hactive, hwanted, hmem, hsame]
  · by_cases hwanted : key ∈ wanted_fields
    · obtain ⟨v, hv⟩ := last_eq_some_of_mem (h.not_active hactive key hmem hwanted)
      simp [Wanted, hwanted, hv]
    · simp [Wanted, hactive, hwanted, hdate]

/-- Any other field. -/
theorem DynamicCovers.last_eq_of_not_mem (h : cdr.DynamicCovers core df wanted_fields)
    {key : String} (hmem : key ∉ cdr.clickhouseEntries.map Prod.fst) :
    Listing.last (cdr.snapshotEntriesFiltered core df wanted_fields) key =
      if cdr.Wanted wanted_fields key then Listing.last (cdr.snapshotEntries core df) key
      else none := by
  rw [last_snapshotEntries, last_snapshotEntriesFiltered, Listing.last_eq_none_iff.mpr hmem]
  by_cases hwanted : key ∈ wanted_fields
  · by_cases hother : key = "active_resources"
    · subst hother
      obtain ⟨v, hv⟩ := last_eq_some_of_mem (h.active hwanted).1
      simp [Wanted, hwanted, hv]
    · by_cases hpasted : "active_resources" ∈ wanted_fields ∧ key = "active_resources_key"
      · obtain ⟨hactive, rfl⟩ := hpasted
        obtain ⟨v, hv⟩ := last_eq_some_of_mem ((h.active hactive).2.1 hwanted)
        simp [Wanted, hwanted, hv]
      · by_cases hactive : "active_resources" ∈ wanted_fields
        · have hkey : key ≠ "active_resources_key" := fun hkey => hpasted ⟨hactive, hkey⟩
          simp [Wanted, hwanted, hother, hkey]
        · simp [Wanted, hwanted, hother, hactive]
  · -- the date is listed without being wanted
    have hpasted : ¬ ("active_resources_key" ∈ wanted_fields ∧
        key = "active_resources_key") :=
      fun h => hwanted (h.2 ▸ h.1)
    by_cases hdate : key = "start_date"
    · subst hdate
      have hstatic : Listing.last (cdr.staticEntries core) "start_date" =
          some (.cstr (core.date cdr.start_time.tv_sec)) := rfl
      cases hv : Listing.last (cdr.dynamicEntries df) "start_date" with
      | none => simp [Wanted, hwanted]
      | some v =>
        have hsame := h.start_date.resolve_left hwanted v hv
        simp [Wanted, hwanted, hstatic, hsame]
    · simp [Wanted, hwanted, hmem, hpasted, hdate]

/-- The filtered snapshot is a restriction where dynamic fields cover what it leaves out. -/
theorem snapshotRestricts_iff : cdr.SnapshotRestricts core df wanted_fields ↔
    cdr.DynamicCovers core df wanted_fields := by
  refine ⟨SnapshotRestricts.dynamicCovers, fun h => ?_⟩
  rw [snapshotRestricts_iff_last]
  intro key
  by_cases hmem : key ∈ cdr.clickhouseEntries.map Prod.fst
  · exact h.last_eq_of_mem hmem
  · exact h.last_eq_of_not_mem hmem

end Cdr

/-! ### A field that is never listed -/

namespace SnapshotExample

/-- Times in microseconds, printed as numbers. -/
def plainCore : Core Int where
  timeval2double t := t.tv_sec * 1000000 + t.tv_usec
  timeval2str t := toString t.tv_sec
  date := toString
  dateTime := toString
  zero := 0
  isNegative d := d < 0
  cJSON_PrintUnformatted _ := "[]"
  print := String.join

/-- A call without active resources. -/
def idleCdr : Cdr Int := {}

end SnapshotExample

open SnapshotExample in
/-- The field `active_resources` is wanted and not written. -/
theorem not_snapshotRestricts_active :
    ¬ ∀ (core : Core Int) (cdr : Cdr Int) (df : List DynField) (wanted_fields : List String),
      cdr.SnapshotRestricts core df wanted_fields := by
  intro hall
  have hfield := hall plainCore idleCdr [] ["active_resources"] "active_resources"
  have hfull : (idleCdr.snapshot_info plainCore [] []).lookup "active_resources" =
      some (.cstr "[]") := by
    rw [Cdr.snapshot_info, Listing.lookup_assign]
    rfl
  have hfiltered : (idleCdr.snapshot_info_filtered plainCore [] ["active_resources"] []).lookup
      "active_resources" = none := by
    rw [Cdr.snapshot_info_filtered, Listing.lookup_assign]
    rfl
  have hwanted : idleCdr.Wanted ["active_resources"] "active_resources" := Or.inl (by decide)
  rw [hfiltered, hfull, if_pos hwanted] at hfield
  cases hfield

end Yeti.Hash
