import Mathlib.Data.List.Induction
import Yeti.Framework.Lists

/-! # The SDP session version of a leg

    `SBCCallLeg::normalizeSdpVersion` gives every SDP that a leg sends the version of
    the leg's own counter.  The counter is set by the first version that comes in and
    counts the changes of `cseq` from then on, for offers and answers apart.

    The zero of the counter stands for a counter not set yet, so a peer that begins
    with version 0 sets it again with every SDP.
-/

namespace Yeti.Sdp

/-! ### The counter -/

/-- The fields of `SBCCallLeg` for the session version, as the constructors set them. -/
structure SdpSession where
  sdp_session_version : UInt32 := 0
  sdp_session_offer_last_cseq : UInt32 := 0
  sdp_session_answer_last_cseq : UInt32 := 0
  deriving DecidableEq, Repr

/-- The arguments of a call of `normalizeSdpVersion`. -/
structure VersionCall where
  sdp_session_version_in : UInt32
  cseq : UInt32
  offer : Bool
  deriving DecidableEq, Repr

namespace SdpSession

/-- `sdp_session_last_cseq`, the field of the direction. -/
def sdp_session_last_cseq (s : SdpSession) (offer : Bool) : UInt32 :=
  if offer then s.sdp_session_offer_last_cseq else s.sdp_session_answer_last_cseq

/-- The assignment through the reference `sdp_session_last_cseq`. -/
def set_last_cseq (s : SdpSession) (offer : Bool) (cseq : UInt32) : SdpSession :=
  if offer then { s with sdp_session_offer_last_cseq := cseq }
  else { s with sdp_session_answer_last_cseq := cseq }

@[simp] theorem last_cseq_set_last_cseq (s : SdpSession) (offer : Bool) (cseq : UInt32) :
    (s.set_last_cseq offer cseq).sdp_session_last_cseq offer = cseq := by
  cases offer <;> rfl

@[simp] theorem last_cseq_set_last_cseq_of_ne (s : SdpSession) {offer offer' : Bool}
    (h : offer' ≠ offer) (cseq : UInt32) :
    (s.set_last_cseq offer cseq).sdp_session_last_cseq offer' = s.sdp_session_last_cseq offer' := by
  cases offer <;> cases offer' <;> first | exact absurd rfl h | rfl

@[simp] theorem last_cseq_with_version (s : SdpSession) (version : UInt32) (offer : Bool) :
    { s with sdp_session_version := version }.sdp_session_last_cseq offer =
      s.sdp_session_last_cseq offer := rfl

/-- `SBCCallLeg::normalizeSdpVersion`: the fields afterwards; the version that is
    written back to the caller is the one in them. -/
def normalizeSdpVersion (s : SdpSession) (call : VersionCall) : SdpSession :=
  if s.sdp_session_version ≠ 0 then
    if s.sdp_session_last_cseq call.offer ≠ call.cseq then
      { s.set_last_cseq call.offer call.cseq with
        sdp_session_version := s.sdp_session_version + 1 }
    else s
  else
    { s.set_last_cseq call.offer call.cseq with
      sdp_session_version := call.sdp_session_version_in }

end SdpSession

open SdpSession

/-- A new leg after calls. -/
def versionAfter (calls : List VersionCall) : SdpSession := calls.foldl normalizeSdpVersion {}

/-- The versions that calls emit. -/
def emittedFrom (s : SdpSession) : List VersionCall → List UInt32
  | [] => []
  | call :: calls =>
    (s.normalizeSdpVersion call).sdp_session_version ::
      emittedFrom (s.normalizeSdpVersion call) calls

/-- The versions that a new leg emits. -/
def emitted (calls : List VersionCall) : List UInt32 := emittedFrom {} calls

/-- The `cseq` of the previous call in the direction. -/
def previousCseq (past : List VersionCall) (offer : Bool) : Option UInt32 :=
  ((past.filter (·.offer = offer)).getLast?).map (·.cseq)

/-- The call's `cseq` differs from that of the previous call in its direction. -/
def Changes (past : List VersionCall) (call : VersionCall) : Prop :=
  ∃ cseq ∈ previousCseq past call.offer, cseq ≠ call.cseq

instance (past : List VersionCall) (call : VersionCall) : Decidable (Changes past call) :=
  inferInstanceAs (Decidable (∃ cseq ∈ previousCseq past call.offer, cseq ≠ call.cseq))

/-- The emitted versions never decrease, and a change of `cseq` in a direction brings
    one greater than all before. -/
structure VersionsGrow (calls : List VersionCall) : Prop where
  monotone : (emitted calls).Pairwise (· ≤ ·)
  strict : ∀ past call, past ++ [call] <+: calls → Changes past call →
    ∀ version ∈ emitted past, version < (versionAfter (past ++ [call])).sdp_session_version

/-- The counter can serve the call: while it is zero, a change of `cseq` comes with a
    version that is not, and it is not incremented beyond 32 bits. -/
structure Servable (past : List VersionCall) (call : VersionCall) : Prop where
  nonzero : (versionAfter past).sdp_session_version = 0 → Changes past call →
    call.sdp_session_version_in ≠ 0
  no_wrap : (versionAfter past).sdp_session_version ≠ 0 →
    (versionAfter past).sdp_session_last_cseq call.offer ≠ call.cseq →
    (versionAfter past).sdp_session_version ≠ 4294967295

/-! ### One more call -/

theorem versionAfter_concat (past : List VersionCall) (call : VersionCall) :
    versionAfter (past ++ [call]) = (versionAfter past).normalizeSdpVersion call := by
  rw [versionAfter, List.foldl_append]
  rfl

theorem emittedFrom_concat (s : SdpSession) (past : List VersionCall) (call : VersionCall) :
    emittedFrom s (past ++ [call]) =
      emittedFrom s past ++
        [((past.foldl normalizeSdpVersion s).normalizeSdpVersion call).sdp_session_version] := by
  induction past generalizing s with
  | nil => rfl
  | cons first past ih => exact congrArg _ (ih (s.normalizeSdpVersion first))

theorem emitted_concat (past : List VersionCall) (call : VersionCall) :
    emitted (past ++ [call]) =
      emitted past ++ [(versionAfter (past ++ [call])).sdp_session_version] := by
  rw [versionAfter_concat]
  exact emittedFrom_concat {} past call

theorem previousCseq_concat (past : List VersionCall) (call : VersionCall) (offer : Bool) :
    previousCseq (past ++ [call]) offer =
      if call.offer = offer then some call.cseq else previousCseq past offer := by
  unfold previousCseq
  by_cases h : call.offer = offer <;> simp [h]

/-- A call leaves its `cseq` in the field of its direction, and the other field. -/
theorem last_cseq_normalizeSdpVersion (s : SdpSession) (call : VersionCall) (offer : Bool) :
    (s.normalizeSdpVersion call).sdp_session_last_cseq offer =
      if call.offer = offer then call.cseq else s.sdp_session_last_cseq offer := by
  unfold normalizeSdpVersion
  by_cases hoffer : call.offer = offer
  · subst hoffer
    rw [if_pos rfl]
    split_ifs with hversion hcseq
    · simp
    · exact Decidable.not_not.mp hcseq
    · simp
  · rw [if_neg hoffer]
    have hne : offer ≠ call.offer := fun h => hoffer h.symm
    split_ifs <;> simp [hne]

/-- The field of a direction holds the `cseq` of the previous call in it. -/
theorem last_cseq_of_previousCseq {past : List VersionCall} {offer : Bool} {cseq : UInt32}
    (h : cseq ∈ previousCseq past offer) :
    (versionAfter past).sdp_session_last_cseq offer = cseq := by
  induction past using List.reverseRecOn with
  | nil => cases h
  | append_singleton past call ih =>
    rw [previousCseq_concat] at h
    rw [versionAfter_concat, last_cseq_normalizeSdpVersion]
    split_ifs at h ⊢ with hoffer
    · exact Option.some.inj h
    · exact ih h

/-- The counter holds the version emitted last. -/
theorem mem_emitted_versionAfter {past : List VersionCall} (h : past ≠ []) :
    (versionAfter past).sdp_session_version ∈ emitted past := by
  induction past using List.reverseRecOn with
  | nil => exact absurd rfl h
  | append_singleton past call _ =>
    rw [emitted_concat]
    exact List.mem_append_right _ List.mem_cons_self

theorem le_versionAfter {past : List VersionCall} (h : (emitted past).Pairwise (· ≤ ·))
    {version : UInt32} (hversion : version ∈ emitted past) :
    version ≤ (versionAfter past).sdp_session_version := by
  induction past using List.reverseRecOn with
  | nil => cases hversion
  | append_singleton past call _ =>
    rw [emitted_concat] at h hversion
    rcases List.mem_append.mp hversion with hmem | hmem
    · exact (List.pairwise_append.mp h).2.2 version hmem _ List.mem_cons_self
    · rw [List.mem_singleton.mp hmem]
      exact UInt32.le_refl _

theorem uint32_le_add_one_iff (v : UInt32) : v ≤ v + 1 ↔ v ≠ 4294967295 := by
  rw [ne_eq, UInt32.le_iff_toNat_le, ← UInt32.toNat_inj, UInt32.toNat_add]
  have := v.toNat_lt
  simp
  omega

theorem uint32_lt_add_one_iff (v : UInt32) : v < v + 1 ↔ v ≠ 4294967295 := by
  rw [ne_eq, UInt32.lt_iff_toNat_lt, ← UInt32.toNat_inj, UInt32.toNat_add]
  have := v.toNat_lt
  simp
  omega

/-- A call that the counter can serve, by the counter before and after. -/
theorem servable_iff (past : List VersionCall) (call : VersionCall) :
    Servable past call ↔
      (versionAfter past).sdp_session_version ≤
          (versionAfter (past ++ [call])).sdp_session_version ∧
        (Changes past call → (versionAfter past).sdp_session_version <
          (versionAfter (past ++ [call])).sdp_session_version) := by
  rw [versionAfter_concat]
  by_cases hzero : (versionAfter past).sdp_session_version = 0
  · -- the counter is not set, or set to zero: the incoming version is taken
    have hnext : ((versionAfter past).normalizeSdpVersion call).sdp_session_version =
        call.sdp_session_version_in := by
      rw [normalizeSdpVersion, if_neg (not_not.mpr hzero)]
    rw [hnext, hzero]
    constructor
    · intro h
      exact ⟨UInt32.zero_le, fun hchanges => UInt32.pos_iff_ne_zero.mpr (h.nonzero hzero hchanges)⟩
    · rintro ⟨-, hlt⟩
      exact ⟨fun _ hchanges => UInt32.pos_iff_ne_zero.mp (hlt hchanges),
        fun hne => absurd hzero hne⟩
  · by_cases hcseq : (versionAfter past).sdp_session_last_cseq call.offer = call.cseq
    · -- the counter stays, and the cseq has not changed
      have hnext : (versionAfter past).normalizeSdpVersion call = versionAfter past := by
        rw [normalizeSdpVersion, if_pos hzero, if_neg (not_not.mpr hcseq)]
      have hsame : ¬ Changes past call := by
        intro ⟨cseq, hprevious, hne⟩
        exact hne ((last_cseq_of_previousCseq hprevious).symm.trans hcseq)
      rw [hnext]
      constructor
      · intro _
        exact ⟨UInt32.le_refl _, fun hchanges => absurd hchanges hsame⟩
      · intro _
        exact ⟨fun h => absurd h hzero, fun _ hne => absurd hcseq hne⟩
    · have hnext : ((versionAfter past).normalizeSdpVersion call).sdp_session_version =
          (versionAfter past).sdp_session_version + 1 := by
        rw [normalizeSdpVersion, if_pos hzero, if_pos hcseq]
      rw [hnext, uint32_le_add_one_iff, uint32_lt_add_one_iff]
      constructor
      · intro h
        exact ⟨h.no_wrap hzero hcseq, fun _ => h.no_wrap hzero hcseq⟩
      · rintro ⟨hwrap, -⟩
        exact ⟨fun h => absurd h hzero, fun _ _ => hwrap⟩

/-- A call preserves growth iff the counter can serve it. -/
theorem versionsGrow_concat (past : List VersionCall) (call : VersionCall) :
    VersionsGrow (past ++ [call]) ↔ VersionsGrow past ∧ Servable past call := by
  have hmonotone : (emitted (past ++ [call])).Pairwise (· ≤ ·) ↔
      (emitted past).Pairwise (· ≤ ·) ∧ ∀ version ∈ emitted past,
        version ≤ (versionAfter (past ++ [call])).sdp_session_version := by
    rw [emitted_concat, List.pairwise_append]
    simp
  rw [servable_iff]
  constructor
  · intro h
    obtain ⟨hpast, hle⟩ := hmonotone.mp h.monotone
    obtain ⟨hstrict, hlt⟩ := List.forall_before_concat.mp h.strict
    refine ⟨⟨hpast, hstrict⟩, ?_, ?_⟩
    · by_cases hnil : past = []
      · subst hnil
        exact UInt32.zero_le
      · exact hle _ (mem_emitted_versionAfter hnil)
    · intro hchanges
      -- a change of `cseq` needs a call before this one
      have hnil : past ≠ [] := by
        rintro rfl
        obtain ⟨cseq, hcseq, -⟩ := hchanges
        cases hcseq
      exact hlt hchanges _ (mem_emitted_versionAfter hnil)
  · intro ⟨hpast, hle, hlt⟩
    refine ⟨hmonotone.mpr ⟨hpast.monotone, ?_⟩,
      List.forall_before_concat.mpr ⟨hpast.strict, ?_⟩⟩
    · intro version hversion
      exact UInt32.le_trans (le_versionAfter hpast.monotone hversion) hle
    · intro hchanges version hversion
      exact UInt32.lt_of_le_of_lt (le_versionAfter hpast.monotone hversion) (hlt hchanges)

/-! ### All calls -/

/-- The versions of a leg grow exactly if the counter can serve every call. -/
theorem versionsGrow_iff_servable (calls : List VersionCall) :
    VersionsGrow calls ↔ ∀ past call, past ++ [call] <+: calls → Servable past call := by
  induction calls using List.reverseRecOn with
  | nil =>
    refine iff_of_true ⟨List.Pairwise.nil, ?_⟩ ?_
    · intro past call h
      exact absurd (List.prefix_nil.mp h) (by simp)
    · intro past call h
      exact absurd (List.prefix_nil.mp h) (by simp)
  | append_singleton calls call ih =>
    rw [versionsGrow_concat, ih, List.forall_before_concat]

/-- A peer that begins with version 0 and keeps it: the second offer goes out with the
    version of the first. -/
theorem not_versionsGrow_zero :
    ¬ VersionsGrow [⟨0, 1, true⟩, ⟨0, 2, true⟩] := by
  intro h
  have hlt := h.strict [⟨0, 1, true⟩] ⟨0, 2, true⟩ (List.prefix_refl _) (by decide) 0 (by decide)
  revert hlt
  decide

/-- An answer after an offer with the greatest version: the counter goes back to 0. -/
example : emitted [⟨4294967295, 1, true⟩, ⟨7, 5, false⟩] = [4294967295, 0] := by decide

end Yeti.Sdp
