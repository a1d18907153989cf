import Yeti.Call.AorResolving

/-! # Which profile is dialled next

    `getNextProfile` passes over profiles with a `skip_code_id`, but only when the
    current profile has one.  From a current profile without it, the next one is
    taken as it is.
-/

namespace Yeti.Call

namespace CallCtx

variable {tr : CodesTranslator} {ctx ctx' : CallCtx}

/-! ### Statement -/

/-- `p` at the current position of `ctx'` is the first profile after the current
    one of `ctx` that is not to be skipped. -/
def NextDialable (ctx ctx' : CallCtx) (p : SqlCallProfile) : Prop :=
  p.skip_code_id = 0 ∧ ctx.current_profile < ctx'.current_profile ∧
    ctx.profiles[ctx'.current_profile]? = some p ∧
    ∀ i q, ctx.current_profile < i → i < ctx'.current_profile → ctx.profiles[i]? = some q →
      q.skip_code_id ≠ 0

/-- After any calls, a call that returns a profile returns the next dialable one. -/
def DialsNext (tr : CodesTranslator) (ctx : CallCtx) : Prop :=
  ∀ (calls : List (Bool × Bool)) (early_state resource_failover : Bool) (p : SqlCallProfile),
    ((ctx.getNextProfiles tr calls).getNextProfile tr early_state resource_failover).2 = some p →
    NextDialable (ctx.getNextProfiles tr calls)
      ((ctx.getNextProfiles tr calls).getNextProfile tr early_state resource_failover).1 p

/-- The current profile is in the list and not to be skipped. -/
def Dialled (ctx : CallCtx) : Prop :=
  ∃ p, ctx.getCurrentProfile = some p ∧ p.skip_code_id = 0

/-! ### One call -/

variable (tr) in
/-- From a profile that is not skipped, a call returns nothing and stays, or takes
    the profile that follows. -/
theorem getNextProfile_dialled (h : ctx.Dialled) (early_state resource_failover : Bool) :
    (ctx.getNextProfile tr early_state resource_failover).1.profiles = ctx.profiles ∧
      ((ctx.getNextProfile tr early_state resource_failover).2 = none ∧
          (ctx.getNextProfile tr early_state resource_failover).1.current_profile =
            ctx.current_profile ∨
        ∃ q rest, ctx.following = q :: rest ∧
          (ctx.getNextProfile tr early_state resource_failover).2 = some q ∧
          (ctx.getNextProfile tr early_state resource_failover).1.current_profile =
            ctx.current_profile + 1) := by
  obtain ⟨p, hp, hskip⟩ := h
  unfold getNextProfile
  simp only [hp, hskip, ne_eq, not_true_eq_false, if_false]
  -- the skipping loop is not entered, since the current profile has no `skip_code_id`
  cases hf : ctx.following with
  | nil => exact ⟨rfl, .inl ⟨rfl, rfl⟩⟩
  | cons q rest =>
    simp only [takeNext]
    split_ifs
    · exact ⟨rfl, .inl ⟨rfl, rfl⟩⟩
    · exact ⟨rfl, .inr ⟨q, rest, rfl, rfl, rfl⟩⟩
    · exact ⟨rfl, .inr ⟨q, rest, rfl, rfl, rfl⟩⟩

variable (tr) in
/-- In early state the profile that follows is always taken. -/
theorem getNextProfile_early (h : ctx.Dialled) {q : SqlCallProfile} {rest : List SqlCallProfile}
    (hf : ctx.following = q :: rest) (resource_failover : Bool) :
    (ctx.getNextProfile tr true resource_failover).2 = some q ∧
      (ctx.getNextProfile tr true resource_failover).1.current_profile =
        ctx.current_profile + 1 ∧
      (ctx.getNextProfile tr true resource_failover).1.profiles = ctx.profiles := by
  obtain ⟨p, hp, hskip⟩ := h
  unfold getNextProfile
  simp [hp, hskip, hf, takeNext]

theorem getElem?_following (ctx : CallCtx) (i : Nat) :
    ctx.following[i]? = ctx.profiles[ctx.current_profile + 1 + i]? := by
  rw [following, List.getElem?_drop]

/-- The profile that follows, and those after it. -/
theorem following_cons {q : SqlCallProfile} {rest : List SqlCallProfile}
    (hf : ctx.following = q :: rest) :
    ctx.profiles[ctx.current_profile + 1]? = some q ∧
      ctx.profiles.drop (ctx.current_profile + 2) = rest := by
  have hq := getElem?_following ctx 0
  rw [hf] at hq
  refine ⟨hq.symm, ?_⟩
  have hdrop : ctx.following.drop 1 = rest := by rw [hf]; rfl
  rwa [following, List.drop_drop] at hdrop

/-! ### All calls -/

/-- Nothing after the current profile is to be skipped. -/
def NoneSkipped (ctx : CallCtx) : Prop := ∀ p ∈ ctx.following, p.skip_code_id = 0

variable (tr) in
/-- A call keeps both conditions. -/
theorem noneSkipped_getNextProfile (h : ctx.Dialled) (hnone : ctx.NoneSkipped)
    (early_state resource_failover : Bool) :
    (ctx.getNextProfile tr early_state resource_failover).1.Dialled ∧
      (ctx.getNextProfile tr early_state resource_failover).1.NoneSkipped := by
  obtain ⟨hprofiles, hcase⟩ :=
    getNextProfile_dialled tr h early_state resource_failover
  rcases hcase with ⟨-, hcur⟩ | ⟨q, rest, hf, -, hcur⟩
  · constructor
    · unfold Dialled getCurrentProfile
      rw [hprofiles, hcur]
      exact h
    · unfold NoneSkipped following
      rw [hprofiles, hcur]
      exact hnone
  · obtain ⟨hq, hrest⟩ := following_cons hf
    constructor
    · refine ⟨q, ?_, hnone q (by simp [hf])⟩
      rw [getCurrentProfile, hprofiles, hcur]
      exact hq
    · intro p hp
      rw [following, hprofiles, hcur, Nat.add_assoc, hrest] at hp
      exact hnone p (by simp [hf, hp])

variable (tr) in
theorem noneSkipped_getNextProfiles (h : ctx.Dialled) (hnone : ctx.NoneSkipped)
    (calls : List (Bool × Bool)) :
    (ctx.getNextProfiles tr calls).Dialled ∧ (ctx.getNextProfiles tr calls).NoneSkipped := by
  induction calls generalizing ctx with
  | nil => exact ⟨h, hnone⟩
  | cons f calls ih =>
    obtain ⟨h', hnone'⟩ := noneSkipped_getNextProfile tr h hnone f.1 f.2
    exact ih h' hnone'

/-- Without skipped profiles every call returns the next dialable one. -/
theorem dialsNext_of_noneSkipped (h : ctx.Dialled) (hnone : ctx.NoneSkipped) :
    ctx.DialsNext tr := by
  intro calls early_state resource_failover p hp
  obtain ⟨h', hnone'⟩ := noneSkipped_getNextProfiles tr h hnone calls
  obtain ⟨-, hcase⟩ := getNextProfile_dialled tr h' early_state resource_failover
  rcases hcase with ⟨hn, -⟩ | ⟨q, rest, hf, hq, hcur⟩
  · rw [hn] at hp
    cases hp
  · rw [hq] at hp
    cases hp
    refine ⟨hnone' p (by simp [hf]), by omega, ?_, ?_⟩
    · rw [hcur]
      exact (following_cons hf).1
    · -- there is no profile between the current one and the next
      intro i q hlt hgt
      omega

/-- Calls in early state reach every profile that follows. -/
theorem noneSkipped_of_dialsNext (h : ctx.Dialled) (hdials : ctx.DialsNext tr) :
    ctx.NoneSkipped := by
  -- induction on the profiles that follow: each call moves on by one
  suffices hfollow : ∀ (rest : List SqlCallProfile) (ctx : CallCtx), ctx.Dialled →
      ctx.DialsNext tr → ctx.following = rest → ∀ p ∈ rest, p.skip_code_id = 0 by
    exact hfollow ctx.following ctx h hdials rfl
  intro rest
  induction rest with
  | nil => simp
  | cons q rest ih =>
    intro ctx h hdials hf
    obtain ⟨hret, hcur, hprofiles⟩ := getNextProfile_early tr h hf false
    obtain ⟨hq, hrest⟩ := following_cons hf
    -- the call returns `q`, so `q` is dialable
    have hskip : q.skip_code_id = 0 := (hdials [] true false q hret).1
    rw [List.forall_mem_cons]
    refine ⟨hskip, ih (ctx.getNextProfile tr true false).1 ⟨q, ?_, hskip⟩ ?_ ?_⟩
    · rw [getCurrentProfile, hprofiles, hcur]
      exact hq
    · intro calls
      -- calls after this one are calls of the longer sequence
      exact hdials ((true, false) :: calls)
    · rw [following, hprofiles, hcur, Nat.add_assoc]
      exact hrest

end CallCtx

/-! ### After the AoR lookup -/

/-- Passing over stops at a profile that is not to be skipped. -/
theorem passOver_dialled {tr : CodesTranslator} {ctx ctx' : CallCtx} {p : SqlCallProfile}
    {rest : List SqlCallProfile} (hf : ctx.following = rest)
    (h : passOver tr p rest ctx = .proceed ctx') : ctx'.Dialled := by
  induction rest generalizing p ctx with
  | nil => simp [passOver] at h
  | cons q rest ih =>
    obtain ⟨hq, hrest⟩ := CallCtx.following_cons hf
    unfold passOver at h
    simp only at h
    split_ifs at h with hrefuse hskip
    · refine ih ?_ h
      rw [CallCtx.following, ← hrest, Nat.add_assoc]
    · simp only [Resolved.proceed.injEq] at h
      subst h
      exact ⟨q, hq, not_not.mp hskip⟩

/-- **Dialling**: after `onRedisReply` has stopped at a profile without
    `skip_code_id`, every call of `getNextProfile` returns the next dialable profile
    exactly when no later profile has a `skip_code_id`. -/
theorem dialsNext_iff_noneSkipped (up : UriParser) (tr : CodesTranslator) (ctx ctx' : CallCtx)
    (success : Bool) (data : AmArg)
    (hreply : onRedisReply up tr ctx success data = some (.proceed ctx')) :
    ctx'.DialsNext tr ↔ ctx'.NoneSkipped := by
  have hdialled : ctx'.Dialled := by
    unfold onRedisReply at hreply
    cases hparse : parse success data with
    | none => simp [hparse] at hreply
    | some aors =>
      simp only [hparse, Option.map_some, Option.some.injEq] at hreply
      split at hreply
      · cases hreply
      · next p hp =>
        split_ifs at hreply with hskip
        · exact passOver_dialled rfl hreply
        · cases hreply
          exact ⟨p, hp, not_not.mp hskip⟩
  exact ⟨CallCtx.noneSkipped_of_dialsNext hdialled, CallCtx.dialsNext_of_noneSkipped hdialled⟩

/-- A user with two numbers of which one is registered. -/
def sampleCtx (skipped : List SqlCallProfile) : CallCtx where
  profiles := { ruri := "sip:1@a" } :: skipped ++ [{ ruri := "sip:3@a" }]
  current_profile := 0
  cdr := {}

/-- No translation is configured. -/
def noTranslations : CodesTranslator where
  icode2resp := []
  icode2resp_overrides := []
  early_100_trying := true
  NO_REPLY_DISCONNECT_CODE := 0

/-- Two profiles without registration: the lookup changes nothing. -/
theorem dialsNext_iff_noneSkipped_plain : (sampleCtx []).DialsNext noTranslations :=
  (dialsNext_iff_noneSkipped noParser noTranslations (sampleCtx []) (sampleCtx []) true
    (.array []) rfl).mpr (by unfold CallCtx.NoneSkipped; decide)

/-- A second profile whose user is not registered is dialled all the same. -/
theorem not_dialsNext_unregistered :
    ¬ ∀ (up : UriParser) (tr : CodesTranslator) (ctx ctx' : CallCtx) (success : Bool)
      (data : AmArg), onRedisReply up tr ctx success data = some (.proceed ctx') →
        ctx'.DialsNext tr := by
  intro hall
  have hdials := hall noParser noTranslations
    (sampleCtx [{ ruri := "sip:2@a", registered_aor_id := 7 }])
    (sampleCtx [{ ruri := "sip:2@a", registered_aor_id := 7, skip_code_id := 131 }])
    true (.array []) rfl
  have hskip := (hdials [] false false
    { ruri := "sip:2@a", registered_aor_id := 7, skip_code_id := 131 } (by decide)).1
  revert hskip
  decide

end Yeti.Call
