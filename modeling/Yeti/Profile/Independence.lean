import Yeti.Profile.Columns

/-! # Independence of the columns

    A change in one column of a row should change those members of the profile only that are
    named after the column or derived from it, and the DTMF members should treat both legs
    alike.

    Two statements of `readFromTuple` stand in the way.  The column of the redirects is
    assigned to the priority of the protocols, and the modes of the A leg are tested twice,
    those of the B leg never.
-/

namespace Yeti.Profile

open Assignments (run run_agree)
open Config (AmArg toUnsigned)

/-! ### Rows and profiles -/

/-- The rows differ in this column at most. -/
def OnlyColumn (column : String) (t t' : AmArg) : Prop :=
  ∀ c, c ≠ column → t.member? c = t'.member? c

/-- The same column for the other leg, for the DTMF columns. -/
def otherLeg : String → String
  | "aleg_dtmf_recv_modes" => "bleg_dtmf_recv_modes"
  | "bleg_dtmf_recv_modes" => "aleg_dtmf_recv_modes"
  | "aleg_rtp_filter_inband_dtmf" => "bleg_rtp_filter_inband_dtmf"
  | "bleg_rtp_filter_inband_dtmf" => "aleg_rtp_filter_inband_dtmf"
  | column => column

/-- The rows differ in that the legs have changed their DTMF columns. -/
def LegsSwapped (t t' : AmArg) : Prop := ∀ c, t'.member? c = t.member? (otherLeg c)

/-- The profiles agree on all members that do not depend on the column. -/
def KeepsOthers (column : String) (p p' : SqlCallProfile) : Prop :=
  ∀ m, ¬ Derived column m → p' m = p m

/-- The members that depend on the DTMF columns of both legs are the same. -/
def SameDtmf (p p' : SqlCallProfile) : Prop :=
  p' .dtmf_mode = p .dtmf_mode ∧ p' (.bool .force_transcoding) = p (.bool .force_transcoding)

/-- A change in the column of the redirects is none for a routing profile. -/
def RedirectsKept (column : String) (t t' : AmArg) : Prop :=
  column = "bleg_max_30x_redirects" → Routing t →
    toUnsigned (t'.hash_get_int "bleg_max_30x_redirects" 0) =
      toUnsigned (t.hash_get_int "bleg_max_30x_redirects" 0)

/-- For a routing profile, inband DTMF is filtered on some leg, or received on both or none. -/
def LegsAgree (t : AmArg) : Prop :=
  Routing t →
    t.hash_get_bool "aleg_rtp_filter_inband_dtmf" false = true ∨
    t.hash_get_bool "bleg_rtp_filter_inband_dtmf" false = true ∨
    hasBits (t.hash_get_int "aleg_dtmf_recv_modes" DTMF_RX_MODE_ALL) DTMF_RX_MODE_INBAND =
      hasBits (t.hash_get_int "bleg_dtmf_recv_modes" DTMF_RX_MODE_ALL) DTMF_RX_MODE_INBAND

variable {core : Core} {df : List String} {column : String} {t t' : AmArg}
  {p₀ p p' : SqlCallProfile}

/-! ### One column -/

theorem OnlyColumn.routing_iff (h : OnlyColumn column t t') (hcol : column ≠ "disconnect_code_id") :
    Routing t ↔ Routing t' := by
  unfold Routing
  rw [hash_get_int_congr (h _ hcol.symm)]

/-- A member that does not depend on the column, in the common part. -/
theorem OnlyColumn.readCommon (h : OnlyColumn column t t') {m : Member}
    (hm : column ∉ readColumns m) :
    readCommon core df t' p₀ m = readCommon core df t p₀ m := by
  refine (readCommon_agree h ?_).symm
  rintro c hc rfl
  exact hm hc

theorem notMem_readColumns_of_common {m : Member} (hcommon : m.common = true)
    (hm : ¬ Derived column m) : column ∉ readColumns m := by
  intro hmem
  rcases mem_readColumns.mp hmem with hown | ⟨rfl, -⟩
  · exact hm (.inl hown)
  · cases hcommon

/-- The statements for routing profiles leave the common members as they are. -/
theorem common_member (hp : readFromTuple core df t p₀ = some p) {m : Member}
    (hm : m.common = true) : p m = readCommon core df t p₀ m := by
  by_cases ht : Routing t
  · rw [readFromTuple_routing hp ht]
    by_cases hset : m ∈ (routingStmts core).map (·.var)
    · rcases common_of_routing m hset hm with rfl | rfl
      · rw [run_routing_outbound_proxy, readCommon_outbound_proxy]
      · rw [run_routing_disconnect_code_id, readCommon_disconnect_code_id]
    · exact Assignments.run_of_notMem hset _ _
  · rw [readFromTuple_refusing hp ht]

theorem keepsOthers_iff (hcol : OnlyColumn column t t')
    (hp : readFromTuple core df t p₀ = some p) (hp' : readFromTuple core df t' p₀ = some p') :
    KeepsOthers column p p' ↔ RedirectsKept column t t' := by
  constructor
  · intro h hredirects ht
    subst hredirects
    have ht' : Routing t' := (hcol.routing_iff (by decide)).mp ht
    have hmember := h (.unsigned .bleg_protocol_priority_id) (by decide)
    rw [readFromTuple_routing hp ht, readFromTuple_routing hp' ht',
      run_routing_protocol_priority, run_routing_protocol_priority] at hmember
    exact hmember
  · intro hkept m hm
    by_cases hcommon : m.common = true
    · -- one row may be for a routing and the other for a refusing profile
      rw [common_member hp hcommon, common_member hp' hcommon]
      exact hcol.readCommon (notMem_readColumns_of_common hcommon hm)
    · rw [Bool.not_eq_true] at hcommon
      have hcode : column ≠ "disconnect_code_id" := fun h => hm (.inr ⟨h, hcommon⟩)
      by_cases ht : Routing t
      · have ht' := (hcol.routing_iff hcode).mp ht
        rw [readFromTuple_routing hp ht, readFromTuple_routing hp' ht']
        -- the crossed assignment apart, all statements stay within their columns
        by_cases hcrossed : m = .unsigned .bleg_protocol_priority_id ∧
            column = "bleg_max_30x_redirects"
        · obtain ⟨rfl, hredirects⟩ := hcrossed
          rw [run_routing_protocol_priority, run_routing_protocol_priority]
          exact hkept hredirects ht
        · have hread : column ∉ readColumns m := by
            rw [mem_readColumns]
            rintro (hown | hredirects)
            · exact hm (.inl hown)
            · exact hcrossed hredirects
          refine (run_agree (within_routing core) hcol ?_ ?_).symm
          · intro y hy
            exact readCommon_agree hcol hy
          · rintro c hc rfl
            exact hread hc
      · have ht' := (hcol.routing_iff hcode).not.mp ht
        rw [readFromTuple_refusing hp ht, readFromTuple_refusing hp' ht',
          readCommon_of_not_common hcommon, readCommon_of_not_common hcommon]

/-! ### Both legs -/

theorem dtmf_mode_eq (hp : readFromTuple core df t p₀ = some p) :
    p .dtmf_mode = if Routing t then (if rowInband t then .DTMFAlways else .DTMFNever)
      else p₀ .dtmf_mode := by
  by_cases ht : Routing t
  · rw [readFromTuple_routing hp ht, run_routing_dtmf_mode, if_pos ht]
  · rw [readFromTuple_refusing hp ht, readCommon_of_not_common rfl, if_neg ht]

theorem force_transcoding_eq (hp : readFromTuple core df t p₀ = some p) :
    p (.bool .force_transcoding) =
      if Routing t ∧ rowInband t = true then true else p₀ (.bool .force_transcoding) := by
  by_cases ht : Routing t
  · rw [readFromTuple_routing hp ht, run_routing_force_transcoding,
      readCommon_of_not_common rfl]
    simp only [ht, true_and]
  · rw [readFromTuple_refusing hp ht, readCommon_of_not_common rfl, if_neg]
    rintro ⟨h, -⟩
    exact ht h

theorem LegsSwapped.routing_iff (h : LegsSwapped t t') : Routing t ↔ Routing t' := by
  have hcell : t'.member? "disconnect_code_id" = t.member? "disconnect_code_id" :=
    h "disconnect_code_id"
  unfold Routing
  rw [hash_get_int_congr hcell]

/-- The test on the other row sees the modes of the B leg. -/
theorem LegsSwapped.rowInband_eq (h : LegsSwapped t t') :
    rowInband t' = (t.hash_get_bool "bleg_rtp_filter_inband_dtmf" false ||
      t.hash_get_bool "aleg_rtp_filter_inband_dtmf" false ||
      hasBits (t.hash_get_int "bleg_dtmf_recv_modes" DTMF_RX_MODE_ALL) DTMF_RX_MODE_INBAND) := by
  have haleg : t'.member? "aleg_rtp_filter_inband_dtmf" =
      t.member? "bleg_rtp_filter_inband_dtmf" := h "aleg_rtp_filter_inband_dtmf"
  have hbleg : t'.member? "bleg_rtp_filter_inband_dtmf" =
      t.member? "aleg_rtp_filter_inband_dtmf" := h "bleg_rtp_filter_inband_dtmf"
  have hmodes : t'.member? "aleg_dtmf_recv_modes" = t.member? "bleg_dtmf_recv_modes" :=
    h "aleg_dtmf_recv_modes"
  unfold rowInband AmArg.hash_get_bool AmArg.hash_get_int
  rw [haleg, hbleg, hmodes]

theorem rowInband_eq_iff (h : LegsSwapped t t') :
    rowInband t' = rowInband t ↔
      t.hash_get_bool "aleg_rtp_filter_inband_dtmf" false = true ∨
      t.hash_get_bool "bleg_rtp_filter_inband_dtmf" false = true ∨
      hasBits (t.hash_get_int "aleg_dtmf_recv_modes" DTMF_RX_MODE_ALL) DTMF_RX_MODE_INBAND =
        hasBits (t.hash_get_int "bleg_dtmf_recv_modes" DTMF_RX_MODE_ALL)
          DTMF_RX_MODE_INBAND := by
  rw [h.rowInband_eq]
  unfold rowInband
  cases t.hash_get_bool "aleg_rtp_filter_inband_dtmf" false <;>
    cases t.hash_get_bool "bleg_rtp_filter_inband_dtmf" false <;> simp [eq_comm]

theorem sameDtmf_iff (hlegs : LegsSwapped t t') (hp : readFromTuple core df t p₀ = some p)
    (hp' : readFromTuple core df t' p₀ = some p') : SameDtmf p p' ↔ LegsAgree t := by
  have hiff := rowInband_eq_iff hlegs
  unfold SameDtmf LegsAgree
  rw [dtmf_mode_eq hp, dtmf_mode_eq hp', force_transcoding_eq hp, force_transcoding_eq hp',
    ← hiff]
  have hrouting : Routing t' ↔ Routing t := hlegs.routing_iff.symm
  simp only [hrouting]
  constructor
  · rintro ⟨hmode, -⟩ ht
    rw [if_pos ht, if_pos ht] at hmode
    by_contra hne
    -- one of the rows has inband DTMF, the other has not
    cases h : rowInband t <;> cases h' : rowInband t' <;> simp [h, h'] at hmode hne
  · intro h
    by_cases ht : Routing t
    · rw [h ht]
      exact ⟨rfl, rfl⟩
    · simp only [ht, if_false, false_and]
      exact ⟨trivial, trivial⟩

/-! ### The redirects -/

/-- No statement sets the redirects, so a call allows what the profile had before. -/
theorem bleg_max_30x_redirects_unset (hp : readFromTuple core df t p₀ = some p) :
    p (.unsigned .bleg_max_30x_redirects) = p₀ (.unsigned .bleg_max_30x_redirects) := by
  have hset : (.unsigned .bleg_max_30x_redirects : Member) ∉
      (routingStmts core).map (·.var) := by
    simp [routingStmts, dialogStmts, filterStmts, sstStmts, authStmts, relayStmts, codecStmts,
      dtmfStmts, timerStmts, transportStmts, lastStmts]
  by_cases ht : Routing t
  · rw [readFromTuple_routing hp ht, Assignments.run_of_notMem hset,
      readCommon_of_not_common rfl]
  · rw [readFromTuple_refusing hp ht, readCommon_of_not_common rfl]

/-! ### Rows that differ -/

theorem onlyColumn_cons (column : String) (v v' : AmArg) (fields : List (String × AmArg)) :
    OnlyColumn column (.struct ((column, v) :: fields)) (.struct ((column, v') :: fields)) := by
  intro c hc
  have hne : (c == column) = false := beq_eq_false_iff_ne.mpr hc
  simp only [AmArg.member?, List.lookup_cons, hne]

theorem otherLeg_otherLeg (c : String) : otherLeg (otherLeg c) = c := by
  fun_cases otherLeg c with
  | case1 => rfl
  | case2 => rfl
  | case3 => rfl
  | case4 => rfl
  | case5 =>
    exact otherLeg.eq_5 c (by assumption) (by assumption) (by assumption) (by assumption)

def swapLegs (fields : List (String × AmArg)) : List (String × AmArg) :=
  fields.map fun e => (otherLeg e.1, e.2)

theorem legsSwapped_swapLegs (fields : List (String × AmArg)) :
    LegsSwapped (.struct fields) (.struct (swapLegs fields)) := by
  intro c
  show (swapLegs fields).lookup c = fields.lookup (otherLeg c)
  induction fields with
  | nil => rfl
  | cons e fields ih =>
    obtain ⟨k, v⟩ := e
    have hkey : (c == otherLeg k) = (otherLeg c == k) := by
      rw [Bool.eq_iff_iff, beq_iff_eq, beq_iff_eq]
      constructor
      · rintro rfl
        exact otherLeg_otherLeg k
      · rintro rfl
        exact (otherLeg_otherLeg c).symm
    show ((otherLeg k, v) :: swapLegs fields).lookup c = _
    rw [List.lookup_cons, List.lookup_cons, hkey, ih]

/-! ### The profile -/

/-- A profile before it is read. -/
def blankProfile : SqlCallProfile
  | .int _ => 0
  | .unsigned _ => 0
  | .bool _ => false
  | .str _ => ""
  | .filters _ => []
  | .acl _ => []
  | .reply_translations => []
  | .dtmf_mode => .DTMFNever
  | .dyn_fields _ => none
  | .placeholders_hash _ => none
  | .sst _ _ => none

/-- The columns of a row, with the modes of both legs. -/
def exampleFields (aleg_modes bleg_modes : Int) : List (String × AmArg) :=
  [("ruri", .cstr "sip:100@10.0.0.1"), ("aleg_dtmf_recv_modes", .int aleg_modes),
    ("bleg_dtmf_recv_modes", .int bleg_modes)]

/-- A row with the value of one more column. -/
def exampleRow (column : String) (v : Int) (aleg_modes bleg_modes : Int) : AmArg :=
  .struct ((column, .int v) :: exampleFields aleg_modes bleg_modes)

/-- The same row with the legs swapped. -/
def exampleSwapped (column : String) (v : Int) (aleg_modes bleg_modes : Int) : AmArg :=
  .struct (swapLegs ((column, .int v) :: exampleFields aleg_modes bleg_modes))

theorem exists_read (t : AmArg)
    (h : (readFromTuple plainCore [] t blankProfile).isSome = true) :
    ∃ p, readFromTuple plainCore [] t blankProfile = some p :=
  Option.isSome_iff_exists.mp h

section Profile

variable {tₛ : AmArg} {pₛ : SqlCallProfile}

/-- **Independence**: a column changes no member that does not depend on it, and the DTMF
    members treat both legs alike, exactly when the column of the redirects is not changed and
    the modes of the legs do not differ in inband DTMF. -/
theorem columns_independent_iff (hcol : OnlyColumn column t t') (hlegs : LegsSwapped t tₛ)
    (hp : readFromTuple core df t p₀ = some p) (hp' : readFromTuple core df t' p₀ = some p')
    (hpₛ : readFromTuple core df tₛ p₀ = some pₛ) :
    KeepsOthers column p p' ∧ SameDtmf p pₛ ↔ RedirectsKept column t t' ∧ LegsAgree t :=
  and_congr (keepsOthers_iff hcol hp hp') (sameDtmf_iff hlegs hp hpₛ)

end Profile

/-- Another time limit changes nothing else. -/
theorem columns_independent_iff_time_limit : ∃ p p' pₛ,
    readFromTuple plainCore [] (exampleRow "time_limit" 60 5 4) blankProfile = some p ∧
    readFromTuple plainCore [] (exampleRow "time_limit" 30 5 4) blankProfile = some p' ∧
    readFromTuple plainCore [] (exampleSwapped "time_limit" 60 5 4) blankProfile = some pₛ ∧
    KeepsOthers "time_limit" p p' ∧ SameDtmf p pₛ := by
  obtain ⟨p, hp⟩ := exists_read (exampleRow "time_limit" 60 5 4) rfl
  obtain ⟨p', hp'⟩ := exists_read (exampleRow "time_limit" 30 5 4) rfl
  obtain ⟨pₛ, hpₛ⟩ := exists_read (exampleSwapped "time_limit" 60 5 4) rfl
  refine ⟨p, p', pₛ, hp, hp', hpₛ, ?_⟩
  refine (columns_independent_iff (onlyColumn_cons _ _ _ _) (legsSwapped_swapLegs _)
    hp hp' hpₛ).mpr ⟨?_, ?_⟩
  · intro h
    exact absurd h (by decide)
  · intro _
    exact .inr (.inr (by decide))

/-- More redirects give the protocols another priority, and swapped modes another DTMF mode. -/
theorem not_columns_independent_redirects : ∃ p p' pₛ,
    readFromTuple plainCore [] (exampleRow "bleg_max_30x_redirects" 0 1 4) blankProfile =
      some p ∧
    readFromTuple plainCore [] (exampleRow "bleg_max_30x_redirects" 3 1 4) blankProfile =
      some p' ∧
    readFromTuple plainCore [] (exampleSwapped "bleg_max_30x_redirects" 0 1 4) blankProfile =
      some pₛ ∧
    ¬ KeepsOthers "bleg_max_30x_redirects" p p' ∧ ¬ SameDtmf p pₛ := by
  obtain ⟨p, hp⟩ := exists_read (exampleRow "bleg_max_30x_redirects" 0 1 4) rfl
  obtain ⟨p', hp'⟩ := exists_read (exampleRow "bleg_max_30x_redirects" 3 1 4) rfl
  obtain ⟨pₛ, hpₛ⟩ := exists_read (exampleSwapped "bleg_max_30x_redirects" 0 1 4) rfl
  refine ⟨p, p', pₛ, hp, hp', hpₛ, ?_, ?_⟩
  · rw [keepsOthers_iff (onlyColumn_cons _ _ _ _) hp hp']
    intro h
    exact absurd (h rfl (by decide)) (by decide)
  · rw [sameDtmf_iff (legsSwapped_swapLegs _) hp hpₛ]
    intro h
    exact absurd (h (by decide)) (by decide)

end Yeti.Profile
