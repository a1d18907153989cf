import Mathlib.Data.List.Induction
import Mathlib.Data.String.Basic
import Yeti.Config.Answers
import Yeti.Framework.Assoc

/-! # Outbound registrations

    Model of `Registration::load_registrations` in `Registration.cpp`: the rows of an
    answer are read into a map, the map is compared with the one of the previous call,
    and the registrar client is told about the difference, in two passes.

    What a call tells the client about one id depends on that id alone
    (`filter_commands`), so that the client follows the database id by id.
-/

namespace Yeti.Config

/-! ### Registrations -/

/-- The values that a registration has. -/
inductive RegValue where
  | cstr (s : String)
  | int (v : Int)
  deriving DecidableEq, Repr

/-- A registration: the members of the `AmArg` struct. -/
abbrev Reg := List (String × RegValue)

/-- `RegistrationsContainer`, in the order of the keys. -/
abbrev RegistrationsContainer := List (String × Reg)

/-- What `Registration.cpp` takes from the core. -/
structure RegistrationApi where
  /-- `AmArg::print` -/
  print : AmArg → String
  DEFAULT_REGISTER_RETRY_DELAY : Int
  REGISTER_ATTEMPTS_UNLIMITED : Int
  /-- `sip_transport::UDP` -/
  UDP : Int
  /-- `sip_uri::SIP` -/
  SIP : Int

/-- `DbAmArg_hash_get_str_any`; no caller here gives a default. -/
def hash_get_str_any (api : RegistrationApi) (a : AmArg) (key : String) : String :=
  match a.member? key with
  | none => ""
  | some .undef => ""
  | some (.cstr s) => s
  | some v => api.print v

def str_fields : List (String × String) :=
  [("id", "o_id"), ("domain", "o_domain"), ("user", "o_user"), ("name", "o_display_name"),
    ("auth_username", "o_auth_user"), ("auth_password", "o_auth_password"),
    ("proxy", "o_proxy"), ("contact", "o_contact"),
    ("sip_interface_name", "o_sip_interface_name")]

def int_fields (api : RegistrationApi) : List (String × String × Int) :=
  [("expires_interval", "o_expire", 0),
    ("retry_delay", "o_retry_delay", api.DEFAULT_REGISTER_RETRY_DELAY),
    ("max_attempts", "o_max_attempts", api.REGISTER_ATTEMPTS_UNLIMITED),
    ("transport_protocol_id", "o_transport_protocol_id", api.UDP),
    ("proxy_transport_protocol_id", "o_proxy_transport_protocol_id", api.UDP),
    ("scheme_id", "o_scheme_id", api.SIP)]

def bool_fields : List (String × String × Bool) :=
  [("force_expires_interval", "o_force_expire", false)]

/-- The members that a row gives. -/
def rowFields (api : RegistrationApi) (r : AmArg) : Reg :=
  str_fields.map (fun t => (t.1, .cstr (hash_get_str_any api r t.2))) ++
    (int_fields api).map (fun t => (t.1, .int (r.hash_get_int t.2.1 t.2.2))) ++
    bool_fields.map (fun t => (t.1, .int (r.hash_get_bool t.2.1 t.2.2).toInt))

/-- `ri[key] = value` -/
def assign (ri : Reg) (t : String × RegValue) : Reg :=
  if (ri.lookup t.1).isSome then ri.map fun m => if m.1 = t.1 then t else m else ri ++ [t]

/-- `Registration::read_registration`. -/
def read_registration (api : RegistrationApi) (regs : RegistrationsContainer) (r : AmArg) :
    RegistrationsContainer :=
  let id := hash_get_str_any api r "o_id"
  -- `try_emplace`: the members of an earlier row with the id are overwritten
  let ri := (regs.lookup id).getD []
  Assoc.set regs id ((rowFields api r).foldl assign ri)

/-- `Registration::is_reg_updated`. -/
def is_reg_updated (local_reg db_reg : Reg) : Bool :=
  local_reg.any fun r => db_reg.lookup r.1 ≠ some r.2

/-! ### The registrar client -/

/-- The calls of the registrar client. -/
inductive Invoke where
  | createRegistration (r : Reg)
  | removeRegistrationById (reg_id : String)
  deriving DecidableEq, Repr

/-- The id of a registration. -/
def regId (r : Reg) : String :=
  match r.lookup "id" with
  | some (.cstr s) => s
  | _ => ""

/-- The id that a call is about. -/
def Invoke.id : Invoke → String
  | .createRegistration r => regId r
  | .removeRegistrationById reg_id => reg_id

/-- The registrar client after a call. -/
def Invoke.apply (client : List Reg) : Invoke → List Reg
  | .createRegistration r => client ++ [r]
  | .removeRegistrationById reg_id => client.filter (regId · ≠ reg_id)

/-! ### Loading -/

/-- `class Registration`, with the registrations known to its client. -/
structure Registration where
  registrar_client_i : Bool := true
  registrations : RegistrationsContainer := []
  client : List Reg := []
  deriving DecidableEq, Repr

/-- The loop over the removed and the updated registrations. -/
def processOld (db : RegistrationsContainer) (r : String × Reg) : List Invoke :=
  match db.lookup r.1 with
  | some reg =>
    if is_reg_updated r.2 reg then [.removeRegistrationById r.1, .createRegistration reg] else []
  | none => [.removeRegistrationById r.1]

/-- The loop over the new registrations. -/
def processNew (registrations : RegistrationsContainer) (r : String × Reg) : List Invoke :=
  if (registrations.lookup r.1).isSome then [] else [.createRegistration r.2]

/-- The registrations of an answer. -/
def readRegistrations (api : RegistrationApi) (data : AmArg) : RegistrationsContainer :=
  data.rows.foldl (read_registration api) []

/-- The calls that a load makes. -/
def commands (registrations db : RegistrationsContainer) : List Invoke :=
  registrations.flatMap (processOld db) ++ db.flatMap (processNew registrations)

/-- `Registration::load_registrations`, with the calls it makes. -/
def load_registrations (api : RegistrationApi) (s : Registration) (data : AmArg) :
    Registration × List Invoke :=
  if !s.registrar_client_i then (s, [])
  else
    let db := readRegistrations api data
    let cmds := commands s.registrations db
    ({ s with registrations := db, client := cmds.foldl Invoke.apply s.client }, cmds)

/-- A sequence of loads, starting with both sides empty. -/
def loads (api : RegistrationApi) (history : List AmArg) : Registration :=
  history.foldl (fun s data => (load_registrations api s data).1) {}

/-! ### What the data describes -/

/-- The registration that the data describes for an id: that of its last row. -/
def describedBy (api : RegistrationApi) (data : AmArg) (id : String) : Option Reg :=
  (data.rows.reverse.find? fun r => hash_get_str_any api r "o_id" = id).map (rowFields api)

/-- The registration of the id after a sequence of loads. -/
def describedByLast (api : RegistrationApi) (history : List AmArg) (id : String) : Option Reg :=
  history.getLast?.bind fun data => describedBy api data id

/-- A load that follows the database, after one that left `previous`. -/
structure Follows (api : RegistrationApi) (previous : String → Option Reg) (data : AmArg)
    (after : Registration × List Invoke) : Prop where
  /-- The client knows the registrations that the data describes, each once. -/
  known : ∀ id, after.1.client.filter (regId · = id) = (describedBy api data id).toList
  /-- What has not changed is left alone. -/
  unchanged : ∀ id reg, previous id = some reg → describedBy api data id = some reg →
    ∀ c ∈ after.2, c.id ≠ id
  /-- What has changed is removed, and then created again. -/
  changed : ∀ id reg reg', previous id = some reg → describedBy api data id = some reg' →
    reg ≠ reg' →
      after.2.filter (·.id = id) = [.removeRegistrationById id, .createRegistration reg']

/-! ### Rows -/

variable {api : RegistrationApi}

/-- The members of a registration. -/
def fieldNames : List String :=
  ["id", "domain", "user", "name", "auth_username", "auth_password", "proxy", "contact",
    "sip_interface_name", "expires_interval", "retry_delay", "max_attempts",
    "transport_protocol_id", "proxy_transport_protocol_id", "scheme_id",
    "force_expires_interval"]

theorem nodup_fieldNames : fieldNames.Nodup := by decide

variable (api) in
theorem keys_rowFields (r : AmArg) : (rowFields api r).map Prod.fst = fieldNames := rfl

variable (api) in
theorem regId_rowFields (r : AmArg) :
    regId (rowFields api r) = hash_get_str_any api r "o_id" := rfl

/-- Assigning new members. -/
theorem foldl_assign_new (fields acc : Reg) (h : ((acc ++ fields).map Prod.fst).Nodup) :
    fields.foldl assign acc = acc ++ fields := by
  induction fields generalizing acc with
  | nil => simp
  | cons t fields ih =>
    have hnew : ¬ (acc.lookup t.1).isSome := by
      rw [Assoc.lookup_isSome_iff]
      intro hmem
      rw [List.map_append, List.map_cons, List.nodup_append] at h
      exact h.2.2 t.1 hmem t.1 (by simp) rfl
    have hstep : assign acc t = acc ++ [t] := by rw [assign, if_neg hnew]
    rw [List.foldl_cons, hstep, ih (acc ++ [t]) (by simpa using h), List.append_assoc,
      List.singleton_append]

/-- Assigning to the same members again. -/
theorem foldl_assign_again (fields acc old : Reg) (hkeys : old.map Prod.fst = fields.map Prod.fst)
    (h : ((acc ++ fields).map Prod.fst).Nodup) :
    fields.foldl assign (acc ++ old) = acc ++ fields := by
  induction fields generalizing acc old with
  | nil =>
    have hnil : old = [] := by simpa using hkeys
    simp [hnil]
  | cons t fields ih =>
    cases old with
    | nil => simp at hkeys
    | cons o old =>
      obtain ⟨hkey, hkeys⟩ : o.1 = t.1 ∧ old.map Prod.fst = fields.map Prod.fst := by
        simpa using hkeys
      rw [List.map_append, List.map_cons, List.nodup_append, List.nodup_cons] at h
      obtain ⟨hacc, ⟨hnot, hrest⟩, hdisjoint⟩ := h
      have hsome : ((acc ++ o :: old).lookup t.1).isSome := by
        rw [Assoc.lookup_isSome_iff]
        simp [hkey]
      have hkeep : ∀ l : Reg, t.1 ∉ l.map Prod.fst →
          l.map (fun m => if m.1 = t.1 then t else m) = l := by
        intro l hl
        conv_rhs => rw [← List.map_id l]
        refine List.map_congr_left fun m hm => ?_
        have hne : m.1 ≠ t.1 := fun heq => hl (heq ▸ List.mem_map_of_mem hm)
        simp [hne]
      have hbefore : t.1 ∉ acc.map Prod.fst := fun hmem => hdisjoint t.1 hmem t.1 (by simp) rfl
      have hstep : assign (acc ++ o :: old) t = (acc ++ [t]) ++ old := by
        rw [assign, if_pos hsome, List.map_append, List.map_cons, hkeep acc hbefore,
          hkeep old (hkeys ▸ hnot), if_pos hkey, List.append_assoc, List.singleton_append]
      have hnodup : (((acc ++ [t]) ++ fields).map Prod.fst).Nodup := by
        rw [List.append_assoc, List.singleton_append, List.map_append, List.map_cons,
          List.nodup_append, List.nodup_cons]
        exact ⟨hacc, ⟨hnot, hrest⟩, hdisjoint⟩
      rw [List.foldl_cons, hstep, ih (acc ++ [t]) old hkeys hnodup, List.append_assoc,
        List.singleton_append]

/-- A map of registrations as rows make them. -/
structure WellFormed (m : RegistrationsContainer) : Prop where
  nodup : (m.map Prod.fst).Nodup
  keys : ∀ e ∈ m, e.2.map Prod.fst = fieldNames
  id : ∀ e ∈ m, regId e.2 = e.1

variable (api) in
/-- A row sets the registration of its id, whether there is one or not. -/
theorem read_registration_eq {regs : RegistrationsContainer} (h : WellFormed regs) (r : AmArg) :
    read_registration api regs r =
      Assoc.set regs (hash_get_str_any api r "o_id") (rowFields api r) := by
  have hnodup : (([] ++ rowFields api r).map Prod.fst).Nodup := nodup_fieldNames
  unfold read_registration
  cases hlookup : regs.lookup (hash_get_str_any api r "o_id") with
  | none =>
    have hnew := foldl_assign_new (rowFields api r) [] hnodup
    simp only [hlookup, Option.getD_none, hnew, List.nil_append]
  | some ri =>
    have hkeys : ri.map Prod.fst = (rowFields api r).map Prod.fst :=
      h.keys _ (Assoc.mem_of_lookup hlookup)
    have hagain := foldl_assign_again (rowFields api r) [] ri hkeys hnodup
    simp only [hlookup, Option.getD_some]
    rw [List.nil_append, List.nil_append] at hagain
    rw [hagain]

theorem WellFormed.read {regs : RegistrationsContainer} (h : WellFormed regs) (r : AmArg) :
    WellFormed (read_registration api regs r) := by
  rw [read_registration_eq api h]
  constructor
  · exact Assoc.nodup_keys_set h.nodup _ _
  · intro e he
    rcases Assoc.mem_set.mp he with rfl | ⟨he, -⟩
    · exact keys_rowFields api r
    · exact h.keys e he
  · intro e he
    rcases Assoc.mem_set.mp he with rfl | ⟨he, -⟩
    · exact regId_rowFields api r
    · exact h.id e he

variable (api) in
theorem wellFormed_foldl (rows : List AmArg) {regs : RegistrationsContainer}
    (h : WellFormed regs) : WellFormed (rows.foldl (read_registration api) regs) := by
  induction rows generalizing regs with
  | nil => exact h
  | cons r rows ih => exact ih (h.read r)

variable (api) in
theorem wellFormed_readRegistrations (data : AmArg) : WellFormed (readRegistrations api data) :=
  wellFormed_foldl api data.rows ⟨by simp, by simp, by simp⟩

variable (api) in
/-- The map holds what the data describes. -/
theorem lookup_readRegistrations (data : AmArg) (id : String) :
    (readRegistrations api data).lookup id = describedBy api data id := by
  unfold readRegistrations describedBy
  generalize data.rows = rows
  induction rows using List.reverseRecOn with
  | nil => rfl
  | append_singleton rows r ih =>
    have hempty : WellFormed [] := ⟨by simp, by simp, by simp⟩
    have hwf := wellFormed_foldl api rows hempty
    rw [List.foldl_append, List.foldl_cons, List.foldl_nil, read_registration_eq api hwf,
      Assoc.lookup_set, ih, List.reverse_append, List.reverse_singleton, List.singleton_append,
      List.find?_cons]
    by_cases hid : id = hash_get_str_any api r "o_id"
    · simp [hid]
    · simp [hid, Ne.symm hid]

/-! ### Comparison -/

/-- Lists of entries with the same keys agree on all lookups only if they are equal. -/
theorem lookup_all_iff {a b : Reg} (hkeys : a.map Prod.fst = b.map Prod.fst)
    (hnodup : (a.map Prod.fst).Nodup) : (∀ r ∈ a, b.lookup r.1 = some r.2) ↔ a = b := by
  induction a generalizing b with
  | nil =>
    have hnil : b = [] := by simpa using hkeys.symm
    simp [hnil]
  | cons r a ih =>
    cases b with
    | nil => simp at hkeys
    | cons r' b =>
      obtain ⟨k, v⟩ := r
      obtain ⟨k', v'⟩ := r'
      obtain ⟨rfl, htails⟩ : k = k' ∧ a.map Prod.fst = b.map Prod.fst := by simpa using hkeys
      rw [List.map_cons, List.nodup_cons] at hnodup
      have hhead : ((k, v') :: b).lookup k = some v ↔ v' = v := by
        rw [Assoc.lookup_cons_ite, if_pos rfl, Option.some.injEq]
      have htail : (∀ r ∈ a, ((k, v') :: b).lookup r.1 = some r.2) ↔
          ∀ r ∈ a, b.lookup r.1 = some r.2 := by
        refine forall_congr' fun r => forall_congr' fun hr => ?_
        have hmem : r.1 ∈ a.map Prod.fst := List.mem_map_of_mem hr
        have hne : r.1 ≠ k := fun heq => hnodup.1 (heq ▸ hmem)
        rw [Assoc.lookup_cons_ite, if_neg hne]
      rw [List.forall_mem_cons, hhead, htail, ih htails hnodup.2, List.cons.injEq, Prod.mk.injEq]
      simp only [true_and, eq_comm]

/-- Registrations made from rows are compared member by member. -/
theorem is_reg_updated_iff {a b : Reg} (ha : a.map Prod.fst = fieldNames)
    (hb : b.map Prod.fst = fieldNames) : is_reg_updated a b = true ↔ a ≠ b := by
  rw [Ne, ← lookup_all_iff (ha.trans hb.symm) (ha ▸ nodup_fieldNames)]
  simp only [is_reg_updated, List.any_eq_true, decide_eq_true_eq, not_forall, exists_prop]

/-! ### Calls about one id -/

/-- What a load tells the client about an id, from its registration before and after. -/
def change (id : String) : Option Reg → Option Reg → List Invoke
  | none, none => []
  | none, some reg => [.createRegistration reg]
  | some _, none => [.removeRegistrationById id]
  | some reg, some reg' =>
    if reg = reg' then [] else [.removeRegistrationById id, .createRegistration reg']

/-- Of the calls made for the entries of a map, those about an id come from its entry. -/
theorem filter_flatMap {m : RegistrationsContainer} (hnodup : (m.map Prod.fst).Nodup)
    {f : String × Reg → List Invoke} (hf : ∀ e ∈ m, ∀ c ∈ f e, c.id = e.1) (id : String) :
    (m.flatMap f).filter (·.id = id) =
      match m.lookup id with
      | some reg => f (id, reg)
      | none => [] := by
  induction m with
  | nil => rfl
  | cons e m ih =>
    obtain ⟨k, reg⟩ := e
    rw [List.map_cons, List.nodup_cons] at hnodup
    have htail := ih hnodup.2 fun e he => hf e (List.mem_cons_of_mem _ he)
    have hhead := hf (k, reg) List.mem_cons_self
    rw [List.flatMap_cons, List.filter_append, htail, Assoc.lookup_cons_ite]
    by_cases hid : id = k
    · -- no other entry has the key
      have hnone : m.lookup k = none := by
        rw [← Option.not_isSome_iff_eq_none, Assoc.lookup_isSome_iff]
        exact hnodup.1
      have hall : (f (k, reg)).filter (·.id = k) = f (k, reg) := by
        rw [List.filter_eq_self]
        intro c hc
        simpa using hhead c hc
      rw [if_pos hid, hid, hnone, hall, List.append_nil]
    · have hother : (f (k, reg)).filter (·.id = id) = [] := by
        rw [List.filter_eq_nil_iff]
        intro c hc
        have := hhead c hc
        simp [this, Ne.symm hid]
      rw [if_neg hid, hother, List.nil_append]

/-- **One id**: a load makes the calls that its own change takes. -/
theorem filter_commands {registrations db : RegistrationsContainer}
    (hreg : WellFormed registrations) (hdb : WellFormed db) (id : String) :
    (commands registrations db).filter (·.id = id) =
      change id (registrations.lookup id) (db.lookup id) := by
  have hold : ∀ e ∈ registrations, ∀ c ∈ processOld db e, c.id = e.1 := by
    intro e _ c hc
    unfold processOld at hc
    split at hc
    · next reg hlookup =>
      have hid := hdb.id _ (Assoc.mem_of_lookup hlookup)
      split_ifs at hc
      · rcases List.mem_cons.mp hc with rfl | hc
        · rfl
        · rw [List.mem_singleton.mp hc]
          exact hid
      · cases hc
    · rw [List.mem_singleton.mp hc]
      rfl
  have hnew : ∀ e ∈ db, ∀ c ∈ processNew registrations e, c.id = e.1 := by
    intro e he c hc
    unfold processNew at hc
    split_ifs at hc
    · cases hc
    · rw [List.mem_singleton.mp hc]
      exact hdb.id e he
  rw [commands, List.filter_append, filter_flatMap hreg.nodup hold, filter_flatMap hdb.nodup hnew]
  cases hbefore : registrations.lookup id with
  | none =>
    cases hafter : db.lookup id with
    | none => rfl
    | some reg => simp [processNew, hbefore, change]
  | some reg =>
    cases hafter : db.lookup id with
    | none => simp [processOld, hafter, change]
    | some reg' =>
      have hupdated := is_reg_updated_iff (hreg.keys _ (Assoc.mem_of_lookup hbefore))
        (hdb.keys _ (Assoc.mem_of_lookup hafter))
      by_cases heq : reg = reg'
      · have hsame : is_reg_updated reg reg' = false := by
          rw [← Bool.not_eq_true, hupdated, not_not]
          exact heq
        subst heq
        simp [processOld, processNew, hbefore, hafter, change, hsame]
      · simp [processOld, processNew, hbefore, hafter, change, hupdated.mpr heq, heq]

/-- The registrations with an id that the client knows depend on the calls about it. -/
theorem filter_client (cmds : List Invoke) (client : List Reg) (id : String) :
    (cmds.foldl Invoke.apply client).filter (regId · = id) =
      (cmds.filter (·.id = id)).foldl Invoke.apply (client.filter (regId · = id)) := by
  induction cmds generalizing client with
  | nil => rfl
  | cons c cmds ih =>
    rw [List.foldl_cons, ih, List.filter_cons]
    split_ifs with hid
    · have hid : c.id = id := by simpa using hid
      have hstep : (c.apply client).filter (regId · = id) =
          c.apply (client.filter (regId · = id)) := by
        cases c with
        | createRegistration r =>
          have hr : regId r = id := hid
          simp [Invoke.apply, List.filter_append, hr]
        | removeRegistrationById reg_id =>
          simp only [Invoke.apply, List.filter_filter, Bool.and_comm]
      rw [List.foldl_cons, hstep]
    · have hid : c.id ≠ id := by simpa using hid
      have hstep : (c.apply client).filter (regId · = id) = client.filter (regId · = id) := by
        cases c with
        | createRegistration r =>
          have hr : regId r ≠ id := hid
          simp [Invoke.apply, List.filter_append, hr]
        | removeRegistrationById reg_id =>
          have hr : reg_id ≠ id := hid
          rw [Invoke.apply, List.filter_filter]
          refine List.filter_congr fun r _ => ?_
          by_cases hreg : regId r = id
          · simp [hreg, Ne.symm hr]
          · simp [hreg]
      rw [hstep]

/-- The calls of a change turn the one registration of the id into the other. -/
theorem foldl_change {id : String} {before after : Option Reg}
    (hbefore : ∀ reg, before = some reg → regId reg = id) :
    (change id before after).foldl Invoke.apply before.toList = after.toList := by
  cases before with
  | none => cases after <;> rfl
  | some reg =>
    have hid := hbefore reg rfl
    cases after with
    | none => simp [change, Invoke.apply, hid]
    | some reg' =>
      by_cases heq : reg = reg'
      · simp [change, heq]
      · simp [change, heq, Invoke.apply, hid]

/-! ### Sequences of loads -/

/-- What holds after every load: the map is well formed, and the client knows what is
    in it, each registration once. -/
structure Mirrors (api : RegistrationApi) (history : List AmArg) (s : Registration) : Prop where
  registrar_client_i : s.registrar_client_i = true
  wellFormed : WellFormed s.registrations
  lookup : ∀ id, s.registrations.lookup id = describedByLast api history id
  known : ∀ id, s.client.filter (regId · = id) = (s.registrations.lookup id).toList

/-- The calls of a load and the client after it, id by id. -/
theorem Mirrors.load {history : List AmArg} {s : Registration} (h : Mirrors api history s)
    (data : AmArg) (id : String) :
    (load_registrations api s data).2.filter (·.id = id) =
        change id (describedByLast api history id) (describedBy api data id) ∧
      (load_registrations api s data).1.client.filter (regId · = id) =
        (describedBy api data id).toList := by
  have hcmds := filter_commands h.wellFormed (wellFormed_readRegistrations api data) id
  rw [h.lookup, lookup_readRegistrations] at hcmds
  have hload : load_registrations api s data =
      ({ s with
          registrations := readRegistrations api data
          client := (commands s.registrations (readRegistrations api data)).foldl
            Invoke.apply s.client },
        commands s.registrations (readRegistrations api data)) := by
    simp [load_registrations, h.registrar_client_i]
  rw [hload]
  refine ⟨hcmds, ?_⟩
  show ((commands _ _).foldl Invoke.apply s.client).filter (regId · = id) = _
  rw [filter_client, hcmds, h.known, h.lookup]
  refine foldl_change fun reg hreg => ?_
  rw [← h.lookup] at hreg
  exact h.wellFormed.id _ (Assoc.mem_of_lookup hreg)

/-- A load keeps the invariant. -/
theorem Mirrors.step {history : List AmArg} {s : Registration} (h : Mirrors api history s)
    (data : AmArg) : Mirrors api (history ++ [data]) (load_registrations api s data).1 := by
  have hregs : (load_registrations api s data).1.registrations = readRegistrations api data := by
    simp [load_registrations, h.registrar_client_i]
  constructor
  · simp [load_registrations, h.registrar_client_i]
  · rw [hregs]
    exact wellFormed_readRegistrations api data
  · intro id
    rw [hregs, lookup_readRegistrations]
    simp [describedByLast]
  · intro id
    rw [hregs, lookup_readRegistrations]
    exact (h.load data id).2

variable (api) in
/-- It holds after every sequence of loads. -/
theorem mirrors_loads (history : List AmArg) : Mirrors api history (loads api history) := by
  induction history using List.reverseRecOn with
  | nil => exact ⟨rfl, ⟨by simp [loads], by simp [loads], by simp [loads]⟩, fun _ => rfl, fun _ => rfl⟩
  | append_singleton history data ih =>
    have hlast : loads api (history ++ [data]) =
        (load_registrations api (loads api history) data).1 := by
      rw [loads, List.foldl_append]
      rfl
    rw [hlast]
    exact ih.step data

/-- **The client follows the database** through every sequence of loads. -/
theorem registrations_follow_database (api : RegistrationApi) (history : List AmArg)
    (data : AmArg) :
    Follows api (describedByLast api history) data
      (load_registrations api (loads api history) data) := by
  have hload := (mirrors_loads api history).load data
  constructor
  · intro id
    exact (hload id).2
  · intro id reg hbefore hafter c hc hid
    have hmem : c ∈ (load_registrations api (loads api history) data).2.filter (·.id = id) :=
      List.mem_filter.mpr ⟨hc, by simpa using hid⟩
    rw [(hload id).1, hbefore, hafter, change, if_pos rfl] at hmem
    cases hmem
  · intro id reg reg' hbefore hafter hne
    rw [(hload id).1, hbefore, hafter, change, if_neg hne]

end Yeti.Config
