import Yeti.Hash.Snapshot

/-! # Listings of active calls

    Model of `CdrList::cdr2arg`, of `cdr2arg_filtered`, which lists only the wanted fields, and
    of `validate_fields`, which accepts the names of static and dynamic fields.

    The table of static fields knows `versions`, which neither of them writes; the whole listing
    also has the fields `disconnect_*`, which the table does not know.
-/

namespace Yeti.Hash

/-- `get_calls_ctx`, with the fields of the router. -/
structure GetCallsCtx where
  now : Timeval
  node_id : Int
  pop_id : Int
  dyn_fields : List DynField
  fields : List String := []

variable {D : Type} (core : Core D) (cdr : Cdr D) (ctx : GetCallsCtx)

/-! ### `validate_fields` -/

/-- The name is one of a static or a dynamic field. -/
def knownField (df : List DynField) (f : String) : Bool :=
  (static_call_fields.map (·.name)).contains f || (df.map (·.name)).contains f

/-- `CdrList::validate_fields`. -/
def validate_fields (wanted_fields : List String) (df : List DynField) : Except String Unit :=
  let failed_fields := wanted_fields.filter fun f => !knownField df f
  if failed_fields.isEmpty then .ok ()
  else .error ("passed one or more unknown fields:" ++ core.print failed_fields)

theorem knownField_of_validate_fields {wanted_fields : List String} {df : List DynField}
    (h : validate_fields core wanted_fields df = .ok ()) {f : String} (hf : f ∈ wanted_fields) :
    f ∈ static_call_fields.map (·.name) ∨ f ∈ df.map (·.name) := by
  unfold validate_fields at h
  by_cases hfailed : (wanted_fields.filter fun f => !knownField df f).isEmpty = true
  · rw [List.isEmpty_iff, List.filter_eq_nil_iff] at hfailed
    have hknown : knownField df f = true := by simpa using hfailed f hf
    unfold knownField at hknown
    rw [Bool.or_eq_true, List.contains_iff_mem, List.contains_iff_mem] at hknown
    exact hknown
  · simp only [hfailed] at h
    cases h

/-! ### All fields -/

namespace Cdr

/-- The time since the call was connected, at least 0. -/
def durationField : AmArg D :=
  if !cdr.connect_time.timerisset then .undef
  else
    let duration := core.timeval2double (ctx.now.timersub cdr.connect_time)
    .double (if core.isNegative duration then core.zero else duration)

/-- The fields before those of the disconnection. -/
def staticCallEntries : List (String × AmArg D) :=
  [("node_id", .int ctx.node_id),
    ("pop_id", .int ctx.pop_id),
    ("local_time", .double (core.timeval2double ctx.now)),
    ("cdr_born_time", .double (core.timeval2double cdr.cdr_born_time)),
    ("start_time", .double (core.timeval2double cdr.start_time)),
    ("end_time", .double (core.timeval2double cdr.end_time)),
    ("connect_time", .double (core.timeval2double cdr.connect_time)),
    ("duration", cdr.durationField core ctx),
    ("legB_remote_port", .int cdr.legB_remote_port),
    ("legB_local_port", .int cdr.legB_local_port),
    ("legA_remote_port", .int cdr.legA_remote_port),
    ("legA_local_port", .int cdr.legA_local_port),
    ("legB_remote_ip", .cstr cdr.legB_remote_ip),
    ("legB_local_ip", .cstr cdr.legB_local_ip),
    ("legA_remote_ip", .cstr cdr.legA_remote_ip),
    ("legA_local_ip", .cstr cdr.legA_local_ip),
    ("orig_call_id", .cstr cdr.orig_call_id),
    ("term_call_id", .cstr cdr.term_call_id),
    ("local_tag", .cstr cdr.local_tag),
    ("global_tag", .cstr cdr.global_tag),
    ("time_limit", .int cdr.time_limit),
    ("dump_level_id", .int cdr.dump_level_id),
    ("audio_record_enabled", .bool cdr.audio_record_enabled),
    ("attempt_num", .int cdr.attempt_num),
    ("resources", .cstr cdr.resources),
    ("active_resources", .cstr cdr.active_resources),
    ("active_resources_json", cdr.active_resources_amarg)]

/-- The fields of the disconnection, which the filtered listing does not have. -/
def disconnectEntries : List (String × AmArg D) :=
  [("disconnect_initiator", .int cdr.disconnect_initiator),
    ("disconnect_code", .int cdr.disconnect_code),
    ("disconnect_reason", .cstr cdr.disconnect_reason),
    ("disconnect_internal_code", .int cdr.disconnect_internal_code),
    ("disconnect_internal_reason", .cstr cdr.disconnect_internal_reason)]

/-- What is assigned to a dynamic field.  An unset text becomes empty, and is overwritten with the
    unset value right away. -/
def dynamicAssignments (d : DynField) : List (String × AmArg D) :=
  match d.type_id, cdr.dynField d.name with
  | .VARCHAR, .undef => [(d.name, .cstr ""), (d.name, .undef)]
  | _, f => [(d.name, f)]

/-- The assignments of `cdr2arg`. -/
def callEntries : List (String × AmArg D) :=
  cdr.staticCallEntries core ctx ++ cdr.disconnectEntries ++
    ctx.dyn_fields.flatMap cdr.dynamicAssignments

/-- `CdrList::cdr2arg`. -/
def cdr2arg : List (String × AmArg D) := Listing.assign [] (cdr.callEntries core ctx)

/-! ### Wanted fields -/

/-- The wanted fields before the dynamic ones. -/
def staticCallEntriesFiltered : List (String × AmArg D) :=
  add_field ctx.fields "node_id" (.int ctx.node_id) ++
  add_field ctx.fields "pop_id" (.int ctx.pop_id) ++
  add_field ctx.fields "local_time" (.double (core.timeval2double ctx.now)) ++
  add_field ctx.fields "cdr_born_time" (.double (core.timeval2double cdr.cdr_born_time)) ++
  add_field ctx.fields "start_time" (.double (core.timeval2double cdr.start_time)) ++
  add_field ctx.fields "end_time" (.double (core.timeval2double cdr.end_time)) ++
  add_field ctx.fields "connect_time" (.double (core.timeval2double cdr.connect_time)) ++
  add_field ctx.fields "duration" (cdr.durationField core ctx) ++
  add_field ctx.fields "legB_remote_port" (.int cdr.legB_remote_port) ++
  add_field ctx.fields "legB_local_port" (.int cdr.legB_local_port) ++
  add_field ctx.fields "legA_remote_port" (.int cdr.legA_remote_port) ++
  add_field ctx.fields "legA_local_port" (.int cdr.legA_local_port) ++
  add_field ctx.fields "legB_remote_ip" (.cstr cdr.legB_remote_ip) ++
  add_field ctx.fields "legB_local_ip" (.cstr cdr.legB_local_ip) ++
  add_field ctx.fields "legA_remote_ip" (.cstr cdr.legA_remote_ip) ++
  add_field ctx.fields "legA_local_ip" (.cstr cdr.legA_local_ip) ++
  add_field ctx.fields "orig_call_id" (.cstr cdr.orig_call_id) ++
  add_field ctx.fields "term_call_id" (.cstr cdr.term_call_id) ++
  add_field ctx.fields "local_tag" (.cstr cdr.local_tag) ++
  add_field ctx.fields "global_tag" (.cstr cdr.global_tag) ++
  add_field ctx.fields "time_limit" (.int cdr.time_limit) ++
  add_field ctx.fields "dump_level_id" (.int cdr.dump_level_id) ++
  add_field ctx.fields "audio_record_enabled" (.bool cdr.audio_record_enabled) ++
  add_field ctx.fields "attempt_num" (.int cdr.attempt_num) ++
  add_field ctx.fields "resources" (.cstr cdr.resources) ++
  add_field ctx.fields "active_resources" (.cstr cdr.active_resources) ++
  add_field ctx.fields "active_resources_json" cdr.active_resources_amarg

/-- The assignments of `cdr2arg_filtered`. -/
def callEntriesFiltered : List (String × AmArg D) :=
  if ctx.fields.isEmpty then []
  else cdr.staticCallEntriesFiltered core ctx ++
    ctx.dyn_fields.flatMap fun d => filter ctx.fields d.name (cdr.dynamicAssignments d)

/-- `CdrList::cdr2arg_filtered`. -/
def cdr2arg_filtered : List (String × AmArg D) :=
  Listing.assign [] (cdr.callEntriesFiltered core ctx)

/-- The filtered listing has the wanted fields of the whole one and no others. -/
def CallRestricts : Prop :=
  ∀ key, (cdr.cdr2arg_filtered core ctx).lookup key =
    if key ∈ ctx.fields then (cdr.cdr2arg core ctx).lookup key else none

/-! ### The listings -/

theorem add_field_eq_filter (wanted_fields : List String) (name : String) (val : AmArg D) :
    add_field wanted_fields name val =
      [(name, val)].filter fun e => e.1 ∈ wanted_fields := by
  simp only [add_field, filter, List.filter_cons, List.filter_nil, decide_eq_true_eq]

theorem staticCallEntriesFiltered_eq : cdr.staticCallEntriesFiltered core ctx =
    (cdr.staticCallEntries core ctx).filter fun e => e.1 ∈ ctx.fields := by
  unfold staticCallEntriesFiltered staticCallEntries
  simp only [add_field_eq_filter, ← List.filter_append, List.cons_append, List.nil_append]

/-- Everything that is assigned for a dynamic field is assigned to it. -/
theorem key_of_mem_dynamicAssignments {d : DynField} {e : String × AmArg D}
    (he : e ∈ cdr.dynamicAssignments d) : e.1 = d.name := by
  unfold dynamicAssignments at he
  split at he
  · rcases List.mem_cons.mp he with rfl | he
    · rfl
    · rw [List.mem_singleton.mp he]
  · rw [List.mem_singleton.mp he]

theorem dynamicAssignments_ne_nil (d : DynField) : cdr.dynamicAssignments d ≠ [] := by
  unfold dynamicAssignments
  split
  · exact List.cons_ne_nil _ _
  · exact List.cons_ne_nil _ _

theorem dynamicFiltered_eq (df : List DynField) (wanted_fields : List String) :
    (df.flatMap fun d => filter wanted_fields d.name (cdr.dynamicAssignments d)) =
      (df.flatMap cdr.dynamicAssignments).filter fun e => e.1 ∈ wanted_fields := by
  rw [List.filter_flatMap]
  refine congrArg (List.flatMap · df) (funext fun d => ?_)
  unfold filter
  -- all assignments of a dynamic field have its name as key
  by_cases hwanted : d.name ∈ wanted_fields
  · rw [if_pos hwanted]
    refine (List.filter_eq_self.mpr fun e he => ?_).symm
    rw [cdr.key_of_mem_dynamicAssignments he]
    exact decide_eq_true hwanted
  · rw [if_neg hwanted]
    refine (List.filter_eq_nil_iff.mpr fun e he => ?_).symm
    rw [cdr.key_of_mem_dynamicAssignments he]
    simpa using hwanted

theorem callEntriesFiltered_eq : cdr.callEntriesFiltered core ctx =
    (cdr.staticCallEntries core ctx ++ ctx.dyn_fields.flatMap cdr.dynamicAssignments).filter
      fun e => e.1 ∈ ctx.fields := by
  unfold callEntriesFiltered
  cases hfields : ctx.fields with
  | nil => simp
  | cons f fields =>
    rw [← hfields, staticCallEntriesFiltered_eq, dynamicFiltered_eq, ← List.filter_append]
    simp [hfields]

/-- A dynamic field is always written. -/
theorem last_dynamic_ne_none {df : List DynField} {f : String} (hf : f ∈ df.map (·.name)) :
    Listing.last (df.flatMap cdr.dynamicAssignments) f ≠ none := by
  obtain ⟨d, hd, rfl⟩ := List.mem_map.mp hf
  obtain ⟨e, entries, hentries⟩ := List.exists_cons_of_ne_nil (cdr.dynamicAssignments_ne_nil d)
  have he : e ∈ cdr.dynamicAssignments d := hentries ▸ List.mem_cons_self
  refine mt Listing.last_eq_none_iff.mp (not_not.mpr ?_)
  refine List.mem_map.mpr ⟨e, List.mem_flatMap.mpr ⟨d, hd, he⟩, ?_⟩
  exact cdr.key_of_mem_dynamicAssignments he

/-- The fields of the disconnection are not in the table. -/
theorem last_disconnect_eq_none {f : String} (hf : f ∈ static_call_fields.map (·.name)) :
    Listing.last cdr.disconnectEntries f = none := by
  have hkeys : cdr.disconnectEntries.map Prod.fst =
      ["disconnect_initiator", "disconnect_code", "disconnect_reason", "disconnect_internal_code",
        "disconnect_internal_reason"] := rfl
  rw [Listing.last_eq_none_iff, hkeys]
  exact (by decide : ∀ f ∈ static_call_fields.map (·.name), f ∉
    ["disconnect_initiator", "disconnect_code", "disconnect_reason", "disconnect_internal_code",
      "disconnect_internal_reason"]) f hf

/-! ### Main result -/

/-- The fields that `validate_fields` accepts are listed like in the whole listing. -/
theorem callRestricts_of_validate_fields
    (h : validate_fields core ctx.fields ctx.dyn_fields = .ok ()) : cdr.CallRestricts core ctx := by
  intro key
  unfold cdr2arg cdr2arg_filtered
  rw [Listing.lookup_assign, Listing.lookup_assign, List.lookup_nil, Option.or_none,
    Option.or_none, callEntriesFiltered_eq, Listing.last_filter (fun key => key ∈ ctx.fields)]
  simp only [decide_eq_true_eq]
  by_cases hkey : key ∈ ctx.fields
  · rw [if_pos hkey, if_pos hkey]
    unfold callEntries
    rw [Listing.last_append, Listing.last_append, Listing.last_append]
    rcases knownField_of_validate_fields core h hkey with hstatic | hdynamic
    · rw [cdr.last_disconnect_eq_none hstatic, Option.none_or]
    · -- the dynamic field is the last one
      obtain ⟨v, hv⟩ := Option.ne_none_iff_exists'.mp (cdr.last_dynamic_ne_none hdynamic)
      rw [hv, Option.some_or, Option.some_or]
  · rw [if_neg hkey, if_neg hkey]

end Cdr

/-- A static field, one that is never written and a dynamic field. -/
def exampleCtx : GetCallsCtx where
  now := ⟨100, 0⟩
  node_id := 1
  pop_id := 1
  dyn_fields := [⟨"customer_id", "integer"⟩]
  fields := ["duration", "versions", "customer_id"]

open SnapshotExample in
theorem callRestricts_exampleCtx :
    validate_fields plainCore exampleCtx.fields exampleCtx.dyn_fields = .ok () ∧
      idleCdr.CallRestricts plainCore exampleCtx :=
  ⟨rfl, idleCdr.callRestricts_of_validate_fields plainCore exampleCtx rfl⟩

end Yeti.Hash
