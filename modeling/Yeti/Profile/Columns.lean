import Yeti.Profile.Reading

/-! # Columns and members

    What a single column of a row changes in a profile.
-/

namespace Yeti.Profile

open Assignments (run exec run_append run_cons run_agree run_of_notMem exec_eq_some apply_self
  apply_of_ne)
open Config (AmArg toUnsigned)

/-! ### Dependences of the statements -/

/-- The columns that a member does depend on: its own ones, and for the priority of the
    protocols that of the redirects too. -/
def readColumns (m : Member) : List String :=
  m.columns ++
    if m = .unsigned .bleg_protocol_priority_id then ["bleg_max_30x_redirects"] else []

theorem mem_readColumns {column : String} {m : Member} :
    column ∈ readColumns m ↔ column ∈ m.columns ∨
      m = .unsigned .bleg_protocol_priority_id ∧ column = "bleg_max_30x_redirects" := by
  unfold readColumns
  split_ifs with h <;> simp [h]

/-- What a statement sets, reads and uses. -/
abbrev Signature := Member × List String × List Member

def signature (a : Assignment) : Signature := (a.var, a.reads, a.uses)

def Signature.Within (s : Signature) : Prop :=
  s.2.1 ⊆ readColumns s.1 ∧ ∀ y ∈ s.2.2, readColumns y ⊆ readColumns s.1

instance (s : Signature) : Decidable s.Within := inferInstanceAs (Decidable (_ ∧ _))

/-- A core for the rows below, where no list has more than one entry. -/
def plainCore : Core where
  print _ := ""
  arg2json _ := "{}"
  explode s _ _ := if s = "" then [] else [s]
  str2i _ := none
  parse _ := true
  dump_level := 0
  dead_rtp_time := 0
  LOG_RTP_MASK := 1
  LOG_SIP_MASK := 2
  IPv4_only := 0
  session_timer_loaded := false
  use_radius := false

variable (core : Core) (df : List String)

/-- What a statement reads for which member does not depend on the core, so the signatures can
    be checked at any of them. -/
theorem within_of_signatures {stmts : List Assignment} (stmts' : List Assignment)
    (hsig : stmts.map signature = stmts'.map signature)
    (h : ∀ s ∈ stmts'.map signature, Signature.Within s) :
    ∀ a ∈ stmts, a.Within readColumns := by
  intro a ha
  have hmem : signature a ∈ stmts'.map signature := hsig ▸ List.mem_map_of_mem ha
  exact h _ hmem

set_option maxRecDepth 1000 in
theorem within_relay : ∀ a ∈ relayStmts core, a.Within readColumns :=
  within_of_signatures (relayStmts plainCore) rfl (by decide)

theorem within_sst : ∀ a ∈ sstStmts core, a.Within readColumns :=
  within_of_signatures (sstStmts plainCore) rfl (by decide)

theorem within_routing : ∀ a ∈ routingStmts core, a.Within readColumns := by
  simp only [routingStmts, List.forall_mem_append]
  refine ⟨⟨⟨⟨⟨⟨⟨⟨?_, ?_⟩, within_sst core⟩, ?_⟩, within_relay core⟩, ?_⟩, ?_⟩, ?_⟩, ?_⟩
  · exact within_of_signatures dialogStmts rfl (by decide)
  · have hsig : (filterStmts core).map signature = (filterStmts plainCore).map signature := by
      simp [filterStmts, signature]
    exact within_of_signatures (filterStmts plainCore) hsig (by decide)
  · exact within_of_signatures (authStmts plainCore) rfl (by decide)
  · exact within_of_signatures dtmfStmts rfl (by decide)
  · exact within_of_signatures timerStmts rfl (by decide)
  · exact within_of_signatures (transportStmts plainCore) rfl (by decide)
  · exact within_of_signatures (lastStmts plainCore) rfl (by decide)

theorem commonStmts_eq : commonStmts core df = commonStmts core [] ++ df.map readDynField := by
  simp [commonStmts]

theorem within_common : ∀ a ∈ commonStmts core df, a.Within readColumns := by
  rw [commonStmts_eq]
  refine List.forall_mem_append.mpr ⟨?_, ?_⟩
  · have hsig : (commonStmts core []).map signature =
        (commonStmts plainCore []).map signature := by simp [commonStmts, signature]
    exact within_of_signatures (commonStmts plainCore []) hsig (by decide)
  · intro a ha
    obtain ⟨name, -, rfl⟩ := List.mem_map.mp ha
    constructor
    · intro c hc
      exact mem_readColumns.mpr (.inl hc)
    · intro y hy
      cases hy

theorem within_disconnect :
    ∀ a ∈ [readInt .disconnect_code_id "disconnect_code_id" 0], a.Within readColumns :=
  within_of_signatures _ rfl (by decide)

/-! ### Placeholders -/

theorem mem_keys_of_member {t : AmArg} {key : String} {v : AmArg}
    (h : t.member? key = some v) : key ∈ keys t := by
  cases t with
  | struct fields =>
    change fields.lookup key = some v at h
    by_contra hkey
    have hnone : fields.lookup key = none := by
      rw [List.lookup_eq_none_iff]
      intro e he
      simp only [bne_iff_ne, ne_eq]
      rintro rfl
      exact hkey (List.mem_map_of_mem he)
    rw [hnone] at h
    cases h
  | _ => cases h

theorem placeholder_placeholder (t : AmArg) (key : String) (old : Option String) :
    placeholder core t key (placeholder core t key old) = placeholder core t key old := by
  unfold placeholder
  cases t.member? key <;> rfl

/-- The loop over keys sets each of them once, however often it comes. -/
theorem run_readPlaceholder (t : AmArg) (key : String) (l : List String) (p : SqlCallProfile) :
    run (l.map (readPlaceholder core)) t p (.placeholders_hash key) =
      if key ∈ l then placeholder core t key (p (.placeholders_hash key))
      else p (.placeholders_hash key) := by
  induction l generalizing p with
  | nil => rfl
  | cons k l ih =>
    rw [List.map_cons, run_cons, ih]
    by_cases hk : k = key
    · -- setting the key again gives the same value
      subst hk
      have hself : (readPlaceholder core k).apply t p (.placeholders_hash k) =
          placeholder core t k (p (.placeholders_hash k)) := apply_self _ t p
      rw [hself, placeholder_placeholder, ite_self, if_pos List.mem_cons_self]
    · have hne : (readPlaceholder core k).var ≠ .placeholders_hash key := by simpa using hk
      have hmem : key ∈ k :: l ↔ key ∈ l := by simp [Ne.symm hk]
      simp only [apply_of_ne hne, hmem]

theorem run_placeholderStmts (huse : core.use_radius = true) (t : AmArg) (key : String)
    (p : SqlCallProfile) : run (placeholderStmts core t) t p (.placeholders_hash key) =
      placeholder core t key (p (.placeholders_hash key)) := by
  unfold placeholderStmts
  rw [if_pos huse, run_readPlaceholder]
  split_ifs with hkey
  · rfl
  · unfold placeholder
    cases hv : t.member? key with
    | none => rfl
    | some v => exact absurd (mem_keys_of_member hv) hkey

theorem notMem_placeholderStmts {m : Member} (hm : ∀ key, m ≠ .placeholders_hash key)
    (t : AmArg) : m ∉ (placeholderStmts core t).map (·.var) := by
  unfold placeholderStmts
  split_ifs with huse
  · simp only [List.map_map, List.mem_map, not_exists, not_and]
    intro key _ h
    exact hm key h.symm
  · exact List.not_mem_nil

/-! ### The common part -/

section Common

variable {core df} {t t' : AmArg} {p : SqlCallProfile} {m : Member}

theorem readCommon_agree {same : String → Prop}
    (hrow : ∀ c, same c → t.member? c = t'.member? c) (hm : ∀ c ∈ readColumns m, same c) :
    readCommon core df t p m = readCommon core df t' p m := by
  have hcommon : ∀ y, (∀ c ∈ readColumns y, same c) →
      run (commonStmts core df) t p y = run (commonStmts core df) t' p y := fun y hy =>
    run_agree (within_common core df) hrow (fun _ _ => rfl) hy
  have hstore : ∀ y, (∀ c ∈ readColumns y, same c) →
      run (placeholderStmts core t) t (run (commonStmts core df) t p) y =
        run (placeholderStmts core t') t' (run (commonStmts core df) t' p) y := by
    intro y hy
    by_cases hkey : ∀ key, y ≠ .placeholders_hash key
    · rw [run_of_notMem (notMem_placeholderStmts core hkey t),
        run_of_notMem (notMem_placeholderStmts core hkey t')]
      exact hcommon y hy
    · -- the loops over the two rows may set other keys, but not this one
      obtain ⟨key, rfl⟩ := not_forall_not.mp hkey
      by_cases huse : core.use_radius = true
      · have hcell := hrow key (hy key (mem_readColumns.mpr (.inl List.mem_cons_self)))
        rw [run_placeholderStmts core huse, run_placeholderStmts core huse, hcommon _ hy]
        unfold placeholder
        rw [hcell]
      · unfold placeholderStmts
        rw [if_neg huse, if_neg huse]
        exact hcommon _ hy
  unfold readCommon
  rw [run_append, run_append, run_append, run_append]
  exact run_agree within_disconnect hrow hstore hm

/-- Only common members are set for a refusing profile. -/
theorem readCommon_of_not_common (hm : m.common = false) :
    readCommon core df t p m = p m := by
  suffices hset : m ∉ (commonStmts core df ++ placeholderStmts core t ++
      [readInt .disconnect_code_id "disconnect_code_id" 0]).map (·.var) by
    unfold readCommon
    rw [run_of_notMem hset]
  rw [commonStmts_eq, List.map_append, List.map_append, List.map_append, List.mem_append,
    List.mem_append, List.mem_append]
  rintro (((h | h) | h) | h)
  · have hlit : ∀ y ∈ (commonStmts core []).map (·.var), y.common = true := by
      simp [commonStmts, Member.common]
    rw [hlit m h] at hm
    cases hm
  · simp only [List.map_map, List.mem_map] at h
    obtain ⟨name, -, rfl⟩ := h
    cases hm
  · exact notMem_placeholderStmts core (by rintro key rfl; cases hm) t h
  · rw [List.mem_singleton.mp h] at hm
    cases hm

end Common

/-! ### Routing and refusing profiles -/

/-- The row is for a routing profile, which has all members. -/
def Routing (t : AmArg) : Prop := t.hash_get_int "disconnect_code_id" 0 = 0

instance (t : AmArg) : Decidable (Routing t) := inferInstanceAs (Decidable (_ = _))

section Members

variable {core df} {t : AmArg} {p p₀ : SqlCallProfile}

theorem readCommon_disconnect_code_id : readCommon core df t p₀ (.int .disconnect_code_id) =
    t.hash_get_int "disconnect_code_id" 0 := by
  unfold readCommon
  rw [run_append]
  rfl

theorem readCommon_outbound_proxy : readCommon core df t p₀ (.str .outbound_proxy) =
    t.hash_get_str "outbound_proxy" := by
  have hrest : (.str .outbound_proxy : Member) ∉ (df.map readDynField ++
      (placeholderStmts core t ++
        [readInt .disconnect_code_id "disconnect_code_id" 0])).map (·.var) := by
    rw [List.map_append, List.map_append, List.mem_append, List.mem_append]
    rintro (h | h | h)
    · simp at h
    · exact notMem_placeholderStmts core (by simp) t h
    · simp at h
  unfold readCommon
  rw [commonStmts_eq, List.append_assoc, List.append_assoc, run_append, run_of_notMem hrest]
  rfl

theorem readFromTuple_eq : readFromTuple core df t p₀ =
    if Routing t then exec (routingStmts core) t (readCommon core df t p₀)
    else some (readCommon core df t p₀) := by
  show (if readCommon core df t p₀ (.int .disconnect_code_id) ≠ 0 then
      some (readCommon core df t p₀)
    else exec (routingStmts core) t (readCommon core df t p₀)) = _
  rw [readCommon_disconnect_code_id]
  by_cases ht : Routing t
  · rw [if_pos ht]
    exact if_neg (not_not_intro ht)
  · rw [if_neg ht]
    exact if_pos ht

theorem readFromTuple_refusing (h : readFromTuple core df t p₀ = some p) (ht : ¬ Routing t) :
    p = readCommon core df t p₀ := by
  rw [readFromTuple_eq, if_neg ht] at h
  exact (Option.some.inj h).symm

theorem readFromTuple_routing (h : readFromTuple core df t p₀ = some p) (ht : Routing t) :
    p = run (routingStmts core) t (readCommon core df t p₀) := by
  rw [readFromTuple_eq, if_pos ht] at h
  exact exec_eq_some h

/-- The two common members that are set again for a routing profile. -/
theorem common_of_routing :
    ∀ y ∈ (routingStmts core).map (·.var), y.common = true →
      y = .str .outbound_proxy ∨ y = .int .disconnect_code_id := by
  have hfilter : (filterStmts core).map (·.var) = (filterStmts plainCore).map (·.var) := by
    simp [filterStmts]
  have hvars : (routingStmts core).map (·.var) = (routingStmts plainCore).map (·.var) := by
    simp only [routingStmts, List.map_append, hfilter]
    rfl
  rw [hvars]
  decide +kernel

theorem run_routing_outbound_proxy (q : SqlCallProfile) :
    run (routingStmts core) t q (.str .outbound_proxy) = t.hash_get_str "outbound_proxy" := by
  have hlast : (.str .outbound_proxy : Member) ∉ (filterStmts core ++ (sstStmts core ++
      (authStmts core ++ (relayStmts core ++ (dtmfStmts ++ (timerStmts ++
        (transportStmts core ++ lastStmts core))))))).map (·.var) := by
    simp [filterStmts, sstStmts, authStmts, relayStmts, codecStmts, dtmfStmts, timerStmts,
      transportStmts, lastStmts]
  simp only [routingStmts, List.append_assoc]
  rw [run_append, run_of_notMem hlast]
  rfl

theorem run_routing_disconnect_code_id (q : SqlCallProfile) :
    run (routingStmts core) t q (.int .disconnect_code_id) =
      t.hash_get_int "disconnect_code_id" 0 := by
  have hlast : (.int .disconnect_code_id : Member) ∉ (dtmfStmts ++ (timerStmts ++
      (transportStmts core ++ lastStmts core))).map (·.var) := by
    simp [dtmfStmts, timerStmts, transportStmts, lastStmts]
  have hblocks : routingStmts core = dialogStmts ++ filterStmts core ++ sstStmts core ++
      authStmts core ++ relayStmts core ++ (dtmfStmts ++ (timerStmts ++
        (transportStmts core ++ lastStmts core))) := by
    simp only [routingStmts, List.append_assoc]
  rw [hblocks, run_append, run_of_notMem hlast, run_append]
  rfl

/-- The priority of the protocols is that of the redirects. -/
theorem run_routing_protocol_priority (q : SqlCallProfile) :
    run (routingStmts core) t q (.unsigned .bleg_protocol_priority_id) =
      toUnsigned (t.hash_get_int "bleg_max_30x_redirects" 0) := by
  have hlast : (.unsigned .bleg_protocol_priority_id : Member) ∉
      (lastStmts core).map (·.var) := by
    simp [lastStmts]
  unfold routingStmts
  rw [run_append, run_of_notMem hlast, run_append]
  rfl

/-! ### DTMF -/

/-- The test for inband DTMF on a row. -/
def rowInband (t : AmArg) : Bool :=
  t.hash_get_bool "aleg_rtp_filter_inband_dtmf" false ||
    t.hash_get_bool "bleg_rtp_filter_inband_dtmf" false ||
    hasBits (t.hash_get_int "aleg_dtmf_recv_modes" DTMF_RX_MODE_ALL) DTMF_RX_MODE_INBAND

/-- What the members that are set from the DTMF columns are set to. -/
theorem run_routing_of_dtmf {m : Member} (q : SqlCallProfile)
    (hm : m ∉ (timerStmts ++ (transportStmts core ++ lastStmts core)).map (·.var)) :
    run (routingStmts core) t q m = run dtmfStmts t (run (dialogStmts ++ filterStmts core ++
      sstStmts core ++ authStmts core ++ relayStmts core) t q) m := by
  have hblocks : routingStmts core = dialogStmts ++ filterStmts core ++ sstStmts core ++
      authStmts core ++ relayStmts core ++ dtmfStmts ++ (timerStmts ++
        (transportStmts core ++ lastStmts core)) := by
    simp only [routingStmts, List.append_assoc]
  rw [hblocks, run_append, run_of_notMem hm, run_append]

theorem inbandDtmf_eq (q : SqlCallProfile) :
    inbandDtmf (run (dtmfStmts.take 6) t q) = rowInband t := by
  have hrow : inbandDtmf (run (dtmfStmts.take 6) t q) = (rowInband t ||
      hasBits (t.hash_get_int "aleg_dtmf_recv_modes" DTMF_RX_MODE_ALL) DTMF_RX_MODE_INBAND) :=
    rfl
  rw [hrow]
  unfold rowInband
  rw [Bool.or_assoc _ _ (hasBits _ _), Bool.or_self]

theorem run_routing_dtmf_mode (q : SqlCallProfile) :
    run (routingStmts core) t q .dtmf_mode =
      if rowInband t then .DTMFAlways else .DTMFNever := by
  rw [run_routing_of_dtmf q (by simp [timerStmts, transportStmts, lastStmts])]
  exact congrArg (fun b : Bool => if b then DtmfMode.DTMFAlways else .DTMFNever)
    (inbandDtmf_eq _)

theorem run_routing_force_transcoding (q : SqlCallProfile) :
    run (routingStmts core) t q (.bool .force_transcoding) =
      if rowInband t then true else q (.bool .force_transcoding) := by
  have hset : (.bool .force_transcoding : Member) ∉ (dialogStmts ++ filterStmts core ++
      sstStmts core ++ authStmts core ++ relayStmts core).map (·.var) := by
    simp [dialogStmts, filterStmts, sstStmts, authStmts, relayStmts, codecStmts]
  rw [run_routing_of_dtmf q (by simp [timerStmts, transportStmts, lastStmts]),
    ← run_of_notMem hset t q]
  exact congrArg (fun b : Bool => if b then true else _) (inbandDtmf_eq _)

end Members

end Yeti.Profile
