import Yeti.Framework.Lists
import Yeti.Call.CallCtx

/-! # Numbers of the attempts

    Every CDR of a call carries an `attempt_num`.  It comes from the copying
    constructor of `Cdr`, from the local `attempts_counter` of `getNextProfile` and
    from the assignment at its end.  When the current profile is to be skipped, the
    CDRs of the skipped profiles take the number of the CDR in use and those after
    it, which is right only if the CDR in use is then renumbered and was not itself
    written in between.
-/

namespace Yeti.Call

/-! ### Calls -/

/-- Calls on the context of one call. -/
inductive ProfileCall where
  | getFirstProfile
  | getNextProfile (early_state resource_failover : Bool)
  deriving DecidableEq, Repr

namespace CallCtx

/-- One call; `getFirstProfile` starts a new CDR and leaves what was written. -/
def call (tr : CodesTranslator) (ctx : CallCtx) : ProfileCall → CallCtx
  | .getFirstProfile =>
    match CallCtx.getFirstProfile ctx.profiles with
    | some first => { first with written := ctx.written }
    | none => ctx
  | .getNextProfile early_state resource_failover =>
    (ctx.getNextProfile tr early_state resource_failover).1

/-- The numbers of the CDRs given to `write_cdr`. -/
def attempts (written : List Cdr) : List Int := written.map (·.attempt_num)

/-- The final write of the CDR in use. -/
def finalAttempts (ctx : CallCtx) : List Int := attempts (write_cdr ctx.written ctx.cdr true)

/-- The CDR of the skipped profile is to be stored. -/
def stores (tr : CodesTranslator) (p : SqlCallProfile) : Bool :=
  (tr.translate_db_code p.skip_code_id p.aleg_override_id).write_cdr

/-- The profiles from the current one on that `getNextProfile` skips. -/
def skipped (ctx : CallCtx) : List SqlCallProfile :=
  (ctx.profiles.drop ctx.current_profile).takeWhile (·.skip_code_id ≠ 0)

/-- The profile after the skipped ones. -/
def unskipped (ctx : CallCtx) : Option SqlCallProfile :=
  ((ctx.profiles.drop ctx.current_profile).dropWhile (·.skip_code_id ≠ 0)).head?

/-- A call that skips profiles with stored CDRs must go on to another profile, and
    must not write the CDR in use.  The first profile is taken before any write. -/
def KeepsNumbers (tr : CodesTranslator) (ctx : CallCtx) : ProfileCall → Prop
  | .getFirstProfile => ctx.written = []
  | .getNextProfile early_state resource_failover =>
    ctx.skipped.any (stores tr) = true →
      (early_state = true ∨ resource_failover = true) ∧
        ∃ q, ctx.unskipped = some q ∧ (early_state = true ∨ q.disconnect_code_id = 0)

/-- All calls of a sequence keep the numbers. -/
def KeepsAll (tr : CodesTranslator) : CallCtx → List ProfileCall → Prop
  | _, [] => True
  | ctx, c :: calls => ctx.KeepsNumbers tr c ∧ KeepsAll tr (ctx.call tr c) calls

/-! ### Skipped profiles -/

variable {tr : CodesTranslator} {ctx : CallCtx}

theorem attempt_num_update_internal_reason (cdr : Cdr) (initiator : DisconnectInitiator)
    (reason : String) (code : Int) :
    (cdr.update_internal_reason initiator reason code).attempt_num = cdr.attempt_num ∧
      (cdr.update_internal_reason initiator reason code).writed = cdr.writed := by
  unfold Cdr.update_internal_reason
  by_cases hwrited : cdr.writed = true
  · rw [if_pos hwrited]
    exact ⟨rfl, rfl⟩
  · rw [if_neg hwrited]
    cases cdr.disconnect_initiator_writed <;> cases haleg : cdr.aleg_reason_writed <;>
      simp [haleg]

theorem attempts_write_cdr {cdr : Cdr} (h : cdr.writed = false) (written : List Cdr)
    (last : Bool) : attempts (write_cdr written cdr last) = attempts written ++ [cdr.attempt_num] := by
  unfold write_cdr attempts
  rw [if_neg (by simp [h]), List.map_append]
  rfl

variable (tr) in
/-- One skipped profile takes the next number if its CDR is stored. -/
theorem skipProfile_attempts (cdr : Cdr) (p : SqlCallProfile) (s : Skip) :
    attempts (skipProfile tr cdr p s).written =
        attempts s.written ++ List.countUp s.attempts_counter ([p].countP (stores tr)) ∧
      (skipProfile tr cdr p s).attempts_counter =
        s.attempts_counter + ([p].countP (stores tr) : Nat) := by
  unfold skipProfile
  by_cases hstores : stores tr p = true
  · have hcount : [p].countP (stores tr) = 1 := by simp [hstores]
    rw [hcount]
    unfold stores at hstores
    simp only [hstores, if_true]
    constructor
    · have hfields := attempt_num_update_internal_reason
        { cdr.next p with attempt_num := s.attempts_counter } .DisconnectByTS
        (tr.translate_db_code p.skip_code_id p.aleg_override_id).internal_reason
        (tr.translate_db_code p.skip_code_id p.aleg_override_id).internal_code
      rw [attempts_write_cdr (hfields.2.trans rfl), hfields.1]
      rfl
    · rfl
  · have hcount : [p].countP (stores tr) = 0 := by simp [hstores]
    rw [hcount]
    unfold stores at hstores
    rw [Bool.not_eq_true] at hstores
    simp [hstores, List.countUp]

variable (tr) in
/-- The loop numbers the stored CDRs one after the other, and stops at the first
    profile that is not skipped. -/
theorem skipLoop_attempts (cdr : Cdr) (p : SqlCallProfile) (rest : List SqlCallProfile) (s : Skip) :
    attempts (skipLoop tr cdr p rest s).2.written =
        attempts s.written ++ List.countUp s.attempts_counter
          ((p :: rest.takeWhile (·.skip_code_id ≠ 0)).countP (stores tr)) ∧
      (skipLoop tr cdr p rest s).2.attempts_counter = s.attempts_counter +
        ((p :: rest.takeWhile (·.skip_code_id ≠ 0)).countP (stores tr) : Nat) ∧
      (skipLoop tr cdr p rest s).1 = (rest.dropWhile (·.skip_code_id ≠ 0)).head? := by
  induction rest generalizing p s with
  | nil =>
    obtain ⟨hwritten, hcounter⟩ := skipProfile_attempts tr cdr p s
    exact ⟨hwritten, hcounter, rfl⟩
  | cons q rest ih =>
    obtain ⟨hwritten, hcounter⟩ := skipProfile_attempts tr cdr p s
    rw [skipLoop]
    by_cases hq : q.skip_code_id ≠ 0
    · obtain ⟨hw, hc, hfound⟩ :=
        ih q { skipProfile tr cdr p s with moved := (skipProfile tr cdr p s).moved + 1 }
      have hcons : (p :: (q :: rest).takeWhile (·.skip_code_id ≠ 0)).countP (stores tr) =
          [p].countP (stores tr) +
            (q :: rest.takeWhile (·.skip_code_id ≠ 0)).countP (stores tr) := by
        rw [List.takeWhile_cons_of_pos (by simpa using hq), ← List.countP_append]
        rfl
      have hdrop : (q :: rest).dropWhile (·.skip_code_id ≠ 0) =
          rest.dropWhile (·.skip_code_id ≠ 0) := List.dropWhile_cons_of_pos (by simpa using hq)
      simp only [if_pos hq]
      rw [hcons, hdrop]
      refine ⟨?_, ?_, hfound⟩
      · rw [hw]
        simp only [hwritten, hcounter]
        rw [List.append_assoc, List.countUp_append]
      · rw [hc]
        simp only [hcounter]
        omega
    · have hcons : (q :: rest).takeWhile (·.skip_code_id ≠ 0) = [] :=
        List.takeWhile_cons_of_neg (by simpa using hq)
      have hdrop : (q :: rest).dropWhile (·.skip_code_id ≠ 0) = q :: rest :=
        List.dropWhile_cons_of_neg (by simpa using hq)
      simp only [if_neg hq]
      rw [hcons, hdrop]
      exact ⟨hwritten, hcounter, rfl⟩

/-! ### One call -/

/-- What holds of the context of a call from the first profile on. -/
structure Numbered (ctx : CallCtx) : Prop where
  listed : ctx.profiles ≠ []
  unwritten : ctx.cdr.writed = false
  current : 1 ≤ ctx.cdr.attempt_num
  positive : ∀ n ∈ attempts ctx.written, 1 ≤ n

theorem finalAttempts_eq (h : ctx.cdr.writed = false) :
    ctx.finalAttempts = attempts ctx.written ++ [ctx.cdr.attempt_num] :=
  attempts_write_cdr h ctx.written true

/-- How many CDRs of skipped profiles `getNextProfile` stores. -/
def stored (tr : CodesTranslator) (ctx : CallCtx) : Nat := ctx.skipped.countP (stores tr)

theorem any_stores_iff : ctx.skipped.any (stores tr) = true ↔ ctx.stored tr ≠ 0 := by
  unfold stored
  rw [List.any_eq_true, ← Nat.pos_iff_ne_zero, List.countP_pos_iff]

/-- How a call that stores the CDRs of `k` skipped profiles changes the numbers, and
    whether it keeps them. -/
inductive Numbers (n : Int) (k : Nat) (written : List Int) (keeps : Prop) (after : CallCtx) : Prop
  /-- No profile is taken: the CDR in use still has the first number. -/
  | stays (hwritten : attempts after.written = written ++ List.countUp n k)
      (hcurrent : after.cdr.attempt_num = n) (hkeeps : keeps ↔ k = 0)
  /-- The CDR in use goes over to the profile taken and is renumbered. -/
  | moves (hwritten : attempts after.written = written ++ List.countUp n k)
      (hcurrent : after.cdr.attempt_num = n + k) (hkeeps : keeps)
  /-- The CDR in use is written with its number, after those of the skipped profiles. -/
  | writes (hwritten : attempts after.written = written ++ List.countUp n k ++ [n])
      (hcurrent : after.cdr.attempt_num = n + k + 1) (hkeeps : keeps ↔ k = 0)

theorem takeNext_numbers {keeps : Prop} {k : Nat} {s : Skip} {q : SqlCallProfile}
    {early_state resource_failover : Bool} (hcdr : ctx.cdr.writed = false)
    (hwritten : attempts s.written = attempts ctx.written ++ List.countUp ctx.cdr.attempt_num k)
    (hcounter : s.attempts_counter = ctx.cdr.attempt_num + k)
    (hkeeps : keeps ↔ (k ≠ 0 → (early_state = true ∨ resource_failover = true) ∧
      (early_state = true ∨ q.disconnect_code_id = 0))) :
    Numbers ctx.cdr.attempt_num k (attempts ctx.written) keeps
        (ctx.takeNext early_state resource_failover q s).1 ∧
      (ctx.takeNext early_state resource_failover q s).1.cdr.writed = false ∧
      (ctx.takeNext early_state resource_failover q s).1.profiles = ctx.profiles := by
  unfold takeNext
  by_cases hrefused : early_state = false ∧ q.disconnect_code_id ≠ 0
  · rw [if_pos (by simpa using hrefused)]
    refine ⟨.stays hwritten rfl ?_, hcdr, rfl⟩
    rw [hkeeps]
    simp [hrefused.1, hrefused.2]
  rw [if_neg (by simpa using hrefused)]
  by_cases hnew : early_state = false ∧ resource_failover = false
  · rw [if_pos (by simpa using hnew)]
    refine ⟨.writes ?_ ?_ ?_, rfl, rfl⟩
    · show attempts (write_cdr s.written ctx.cdr false) = _
      rw [attempts_write_cdr hcdr, hwritten]
    · show s.attempts_counter + 1 = _
      rw [hcounter]
    · rw [hkeeps]
      simp [hnew.1, hnew.2]
  · rw [if_neg (by simpa using hnew)]
    refine ⟨.moves hwritten hcounter (hkeeps.mpr ?_), hcdr, rfl⟩
    intro _
    cases early_state <;> simp_all

theorem drop_current {p : SqlCallProfile} (hp : ctx.getCurrentProfile = some p) :
    ctx.profiles.drop ctx.current_profile = p :: ctx.following := by
  obtain ⟨hlt, hget⟩ := List.getElem?_eq_some_iff.mp hp
  rw [List.drop_eq_getElem_cons hlt, hget]
  rfl

theorem stored_of_none (hp : ctx.getCurrentProfile = none) : ctx.stored tr = 0 := by
  have hdrop : ctx.profiles.drop ctx.current_profile = [] :=
    List.drop_eq_nil_of_le (List.getElem?_eq_none_iff.mp hp)
  simp [stored, skipped, hdrop]

/-- A current profile that is not skipped ends the skipped ones. -/
theorem stored_of_unskipped {p : SqlCallProfile} (hp : ctx.getCurrentProfile = some p)
    (hskip : ¬p.skip_code_id ≠ 0) : ctx.stored tr = 0 := by
  rw [stored, skipped, drop_current hp, List.takeWhile_cons_of_neg (by simpa using hskip)]
  rfl

variable (tr) in
/-- The CDR in use is renumbered only when it goes over to another profile. -/
theorem getNextProfile_numbers (hcdr : ctx.cdr.writed = false)
    (early_state resource_failover : Bool) :
    Numbers ctx.cdr.attempt_num (ctx.stored tr) (attempts ctx.written)
        (ctx.KeepsNumbers tr (.getNextProfile early_state resource_failover))
        (ctx.getNextProfile tr early_state resource_failover).1 ∧
      (ctx.getNextProfile tr early_state resource_failover).1.cdr.writed = false ∧
      (ctx.getNextProfile tr early_state resource_failover).1.profiles = ctx.profiles := by
  have hkeeps : ctx.KeepsNumbers tr (.getNextProfile early_state resource_failover) ↔
      (ctx.stored tr ≠ 0 → (early_state = true ∨ resource_failover = true) ∧
        ∃ q, ctx.unskipped = some q ∧ (early_state = true ∨ q.disconnect_code_id = 0)) := by
    rw [← any_stores_iff]
    rfl
  have hstart : attempts ctx.written =
      attempts ctx.written ++ List.countUp ctx.cdr.attempt_num 0 := (List.append_nil _).symm
  unfold getNextProfile
  cases hp : ctx.getCurrentProfile with
  | none =>
    rw [stored_of_none hp] at hkeeps ⊢
    exact ⟨.stays hstart rfl (hkeeps.trans (by simp)), hcdr, rfl⟩
  | some p =>
    have hdrop := drop_current hp
    by_cases hskip : p.skip_code_id ≠ 0
    · have hskipped : ctx.skipped = p :: ctx.following.takeWhile (·.skip_code_id ≠ 0) := by
        rw [skipped, hdrop, List.takeWhile_cons_of_pos (by simpa using hskip)]
      have hunskipped : ctx.unskipped =
          (ctx.following.dropWhile (·.skip_code_id ≠ 0)).head? := by
        rw [unskipped, hdrop, List.dropWhile_cons_of_pos (by simpa using hskip)]
      obtain ⟨hwritten, hcounter, hfound⟩ := skipLoop_attempts tr ctx.cdr p ctx.following
        { attempts_counter := ctx.cdr.attempt_num, written := ctx.written, moved := 0 }
      rw [← hskipped] at hwritten hcounter
      rw [← hunskipped] at hfound
      simp only [if_pos hskip]
      split
      next q s hloop =>
        rw [hloop] at hwritten hcounter hfound
        apply takeNext_numbers hcdr hwritten hcounter
        rw [hkeeps, ← hfound]
        simp [stored]
      next s hloop =>
        rw [hloop] at hwritten hcounter hfound
        refine ⟨.stays hwritten rfl ?_, hcdr, rfl⟩
        rw [hkeeps, ← hfound]
        simp
    · rw [stored_of_unskipped hp hskip] at hkeeps ⊢
      simp only [if_neg hskip]
      split
      · exact ⟨.stays hstart rfl (hkeeps.trans (by simp)), hcdr, rfl⟩
      · apply takeNext_numbers hcdr hstart
        · show ctx.cdr.attempt_num = ctx.cdr.attempt_num + ((0 : Nat) : Int)
          omega
        · rw [hkeeps]
          simp

/-! ### A whole call -/

/-- A call keeps the numbers ascending exactly when they were and `KeepsNumbers` holds. -/
theorem Numbers.ascending_iff {n : Int} {k : Nat} {written : List Int} {keeps : Prop}
    {after : CallCtx} (h : Numbers n k written keeps after) :
    (attempts after.written ++ [after.cdr.attempt_num]).Pairwise (· < ·) ↔
      (written ++ [n]).Pairwise (· < ·) ∧ keeps := by
  -- the numbers of the skipped profiles start with that of the CDR in use
  have hmem (hk : k ≠ 0) : n ∈ written ++ List.countUp n k :=
    List.mem_append_right _ (List.mem_countUp.mpr (by omega))
  have hsucc : List.countUp n k ++ [n + k] = List.countUp n (k + 1) :=
    List.countUp_append n k 1
  cases h with
  | stays hwritten hcurrent hkeeps =>
    rw [hwritten, hcurrent, hkeeps]
    by_cases hk : k = 0
    · simp [hk, List.countUp]
    · have hagain := List.not_pairwise_lt_of_mem (r := []) (hmem hk)
      simp only [hagain, hk, and_false]
  | moves hwritten hcurrent hkeeps =>
    rw [hwritten, hcurrent, List.append_assoc, hsucc, List.pairwise_append_countUp]
    exact (and_iff_left hkeeps).symm
  | writes hwritten hcurrent hkeeps =>
    rw [hwritten, hcurrent, hkeeps]
    by_cases hk : k = 0
    · have htwo : written ++ List.countUp n 0 ++ [n] ++ [n + (0 : Nat) + 1] =
          written ++ List.countUp n (1 + 1) := by
        simp [List.countUp]
      rw [hk, htwo, List.pairwise_append_countUp]
      exact (and_iff_left rfl).symm
    · have hagain := List.not_pairwise_lt_of_mem (r := [n + k + 1]) (hmem hk)
      rw [List.append_assoc, List.singleton_append]
      simp only [hagain, hk, and_false]

theorem numbered_getFirstProfile {profiles : List SqlCallProfile}
    (h : CallCtx.getFirstProfile profiles = some ctx) : ctx.Numbered ∧ ctx.written = [] ∧
      ctx.cdr.attempt_num = 1 ∧ ctx.profiles = profiles := by
  unfold getFirstProfile at h
  split at h
  · cases h
  · cases h
    exact ⟨⟨by simp, rfl, Int.le_refl 1, by simp [attempts]⟩, rfl, rfl, rfl⟩

theorem Numbers.positive {n : Int} {k : Nat} {written : List Int} {keeps : Prop}
    {after : CallCtx} (h : Numbers n k written keeps after) (hn : 1 ≤ n)
    (hwritten : ∀ x ∈ written, 1 ≤ x) :
    1 ≤ after.cdr.attempt_num ∧ ∀ x ∈ attempts after.written, 1 ≤ x := by
  have hskipped : ∀ x ∈ written ++ List.countUp n k, 1 ≤ x := by
    intro x hx
    rcases List.mem_append.mp hx with hx | hx
    · exact hwritten x hx
    · have hle := (List.mem_countUp.mp hx).1
      omega
  cases h with
  | stays hafter hcurrent _ =>
    rw [hafter, hcurrent]
    exact ⟨hn, hskipped⟩
  | moves hafter hcurrent _ =>
    rw [hafter, hcurrent]
    exact ⟨by omega, hskipped⟩
  | writes hafter hcurrent _ =>
    rw [hafter, hcurrent]
    refine ⟨by omega, ?_⟩
    intro x hx
    rcases List.mem_append.mp hx with hx | hx
    · exact hskipped x hx
    · rw [List.mem_singleton.mp hx]
      exact hn

variable (tr) in
/-- One call on the context: what holds of it stays so, and the numbers still ascend
    exactly if they did and the call keeps them. -/
theorem Numbered.call (h : ctx.Numbered) (c : ProfileCall) :
    (ctx.call tr c).Numbered ∧
      ((ctx.call tr c).finalAttempts.Pairwise (· < ·) ↔
        ctx.finalAttempts.Pairwise (· < ·) ∧ ctx.KeepsNumbers tr c) := by
  cases c with
  | getFirstProfile =>
    obtain ⟨p, rest, hcons⟩ := List.exists_cons_of_ne_nil h.listed
    have hcall : ctx.call tr .getFirstProfile =
        { profiles := ctx.profiles, current_profile := 0, cdr := .ofProfile p,
          written := ctx.written } := by
      simp [CallCtx.call, CallCtx.getFirstProfile, hcons]
    have hnumbered : (ctx.call tr .getFirstProfile).Numbered := by
      rw [hcall]
      exact ⟨h.listed, rfl, Int.le_refl 1, h.positive⟩
    refine ⟨hnumbered, ?_⟩
    rw [finalAttempts_eq hnumbered.unwritten, finalAttempts_eq h.unwritten, hcall]
    show (attempts ctx.written ++ [1]).Pairwise (· < ·) ↔ _ ∧ ctx.written = []
    constructor
    · intro hasc
      -- all numbers written before are at least that of the new CDR
      have hnil : attempts ctx.written = [] := by
        apply List.eq_nil_iff_forall_not_mem.mpr
        intro x hx
        have hlt := (List.pairwise_append.mp hasc).2.2 x hx 1 (List.mem_singleton.mpr rfl)
        have hpos := h.positive x hx
        omega
      rw [hnil]
      exact ⟨List.pairwise_singleton _ _, List.map_eq_nil_iff.mp hnil⟩
    · rintro ⟨-, hnil⟩
      rw [hnil]
      exact List.pairwise_singleton _ _
  | getNextProfile early_state resource_failover =>
    obtain ⟨hnumbers, hcdr, hprofiles⟩ :=
      getNextProfile_numbers tr h.unwritten early_state resource_failover
    obtain ⟨hcurrent, hpositive⟩ := hnumbers.positive h.current h.positive
    refine ⟨⟨hprofiles ▸ h.listed, hcdr, hcurrent, hpositive⟩, ?_⟩
    rw [finalAttempts_eq h.unwritten, ← hnumbers.ascending_iff]
    exact iff_of_eq (congrArg _ (finalAttempts_eq hcdr))

theorem Numbered.ascending_iff (h : ctx.Numbered) (calls : List ProfileCall) :
    (calls.foldl (CallCtx.call tr) ctx).finalAttempts.Pairwise (· < ·) ↔
      ctx.finalAttempts.Pairwise (· < ·) ∧ ctx.KeepsAll tr calls := by
  induction calls generalizing ctx with
  | nil => exact (and_iff_left trivial).symm
  | cons c calls ih =>
    obtain ⟨hnext, hstep⟩ := h.call tr c
    rw [List.foldl_cons, ih hnext, hstep, and_assoc]
    rfl

/-- The numbers of the CDRs of a call ascend, up to the final write, exactly if each
    of its calls for a profile keeps them. -/
theorem attempts_ascending_iff (tr : CodesTranslator) (profiles : List SqlCallProfile)
    (calls : List ProfileCall) :
    (∀ ctx ∈ CallCtx.getFirstProfile profiles,
        (calls.foldl (CallCtx.call tr) ctx).finalAttempts.Pairwise (· < ·)) ↔
      ∀ ctx ∈ CallCtx.getFirstProfile profiles, ctx.KeepsAll tr calls := by
  apply forall_congr'
  intro ctx
  apply imp_congr_right
  intro hfirst
  obtain ⟨hnumbered, hwritten, -, -⟩ := numbered_getFirstProfile hfirst
  rw [hnumbered.ascending_iff, finalAttempts_eq hnumbered.unwritten, hwritten]
  exact and_iff_right (List.pairwise_singleton _ _)

/-- A skipped profile before one to dial: without a failover of resources both the CDR
    of the skipped profile and the CDR in use are written as attempt 1. -/
theorem not_attempts_ascending_skipped :
    ¬ ∀ ctx ∈ CallCtx.getFirstProfile
        [{ ruri := "sip:1@a", skip_code_id := 8 }, { ruri := "sip:1@b" }],
      ([ProfileCall.getNextProfile false false].foldl
        (CallCtx.call ⟨[], [], false, 600⟩) ctx).finalAttempts.Pairwise (· < ·) := by
  intro h
  have hwritten := h _ rfl
  revert hwritten
  decide

end CallCtx

end Yeti.Call
