import Yeti.Call.Refusal

/-! # Negative replies of legs that were removed

    A leg that was removed may still send a negative reply.  `b2bInitialErr` and
    `onBLegRefused` tell it from a reply of the current leg only by `other_id`, which
    is empty until the first 1xx of the current leg.
-/

namespace Yeti.Call

/-! ### What is claimed -/

/-- The leg, the profile in use, its CDR and the resources are as before. -/
structure Unchanged (leg : CallLeg) (s : SbcState) (leg' : CallLeg) (s' : SbcState) : Prop where
  call_status : leg'.call_status = leg.call_status
  other_id : leg'.other_id = leg.other_id
  other_legs : leg'.other_legs = leg.other_legs
  stopped : leg'.stopped = leg.stopped
  current_profile : s'.call_ctx.map (·.current_profile) = s.call_ctx.map (·.current_profile)
  cdr : s'.call_ctx.map (·.cdr) = s.call_ctx.map (·.cdr)
  handlers : s'.handlers = s.handlers
  crashed : s'.crashed = false

/-- The CDR would record nothing new from the refusal. -/
def RefusalCtx.Records (env : RefusalEnv) (c : RefusalCtx) (reply : AmSipReply) : Prop :=
  c.cdr.writed = true ∨
    (reply.remote_port = 0 ∨ c.cdr.update_legB reply = c.cdr) ∧
    c.cdr.bleg_reason_writed = true ∧
    (c.cdr.start_time = c.cdr.end_time → c.cdr.end_time = env.now) ∧
    c.cdr.disconnect_initiator_writed = true ∧
    c.cdr.aleg_reason_writed = true ∧
    c.cdr.disconnect_rewrited_reason = (SbcState.rewritten env c reply).2.2 ∧
    c.cdr.disconnect_rewrited_code = (SbcState.rewritten env c reply).2.1

/-- The hunting does not go on, or there is nothing to put back and nothing to dial. -/
def RefusalCtx.Rests (env : RefusalEnv) (c : RefusalCtx) (handlers : List String)
    (reply : AmSipReply) : Prop :=
  env.tables.stop_hunting reply.code ((c.getCurrentProfile.map env.bleg_override_id).getD 0) =
      true ∨
    ∃ profile, c.getCurrentProfile = some profile ∧
      (profile.resource_handler = "" ∨ profile.resource_handler ∉ handlers) ∧
      (c.initial_invite = false ∨ (c.getNextProfile env.tr false false).2 = none)

/-- The reply cannot do harm: it is known not to come from the current leg, or there is
    no call to harm, or nothing is left to record and to do; and there is a leg left. -/
def Calm (env : RefusalEnv) (leg : CallLeg) (s : SbcState) (reply : AmSipReply) : Prop :=
  (leg.call_status = .Ringing ∨ leg.other_legs ≠ []) ∧
    (leg.other_id ≠ "" ∨ ∀ c ∈ s.call_ctx, c.Records env reply ∧ c.Rests env s.handlers reply)

/-! ### The CDR -/

/-- Nothing is left to record in the reasons of the CDR. -/
theorem TimedCdr.records_iff (cdr : TimedCdr) (hcdr : cdr.writed = false)
    (initiator : DisconnectInitiator) (reason₁ reason₂ reason₃ : String) (code₁ code₂ code₃ : Int)
    (now : Nat) :
    ((cdr.update_bleg_reason reason₁ code₁).update_internal_reason initiator reason₂ code₂
        now).update_aleg_reason reason₃ code₃ = cdr ↔
      cdr.bleg_reason_writed = true ∧ (cdr.start_time = cdr.end_time → cdr.end_time = now) ∧
        cdr.disconnect_initiator_writed = true ∧ cdr.aleg_reason_writed = true ∧
        cdr.disconnect_rewrited_reason = reason₃ ∧ cdr.disconnect_rewrited_code = code₃ := by
  obtain ⟨⟨writed, is_last, attempt_num, trusted_hdrs_gw, outbound_proxy, ruri, dyn_fields,
    time_limit, dump_level_id, resources, disconnect_initiator, disconnect_initiator_writed,
    disconnect_internal_reason, disconnect_internal_code, aleg_reason_writed,
    disconnect_rewrited_reason, disconnect_rewrited_code⟩, disconnect_reason, disconnect_code,
    bleg_reason_writed, start_time, bleg_invite_time, connect_time, bleg_connect_time,
    end_time⟩ := cdr
  obtain rfl : writed = false := hcdr
  unfold update_bleg_reason update_internal_reason update_with_action update_aleg_reason
    Cdr.update_internal_reason Cdr.update_aleg_reason
  by_cases htime : start_time = end_time <;> cases bleg_reason_writed <;>
    cases disconnect_initiator_writed <;> cases aleg_reason_writed <;>
    simp [htime, eq_comm]
  exact and_comm

theorem ReplyCdr.with_toTimedCdr_eq_iff (a : ReplyCdr) {b : ReplyCdr} {t : TimedCdr}
    (hsame : a.toTimedCdr = b.toTimedCdr) :
    { a with toTimedCdr := t } = b ↔ a = b ∧ t = b.toTimedCdr := by
  constructor
  · intro h
    have ht : t = b.toTimedCdr := congrArg ReplyCdr.toTimedCdr h
    refine ⟨?_, ht⟩
    rw [ht, ← hsame] at h
    exact h
  · rintro ⟨rfl, rfl⟩
    rfl

/-- Nothing is left to record of a refusal. -/
theorem RefusalCtx.records_iff (env : RefusalEnv) (c : RefusalCtx) {reply : AmSipReply}
    (hcode : 300 ≤ reply.code) :
    SbcState.recordRefusal env c reply = c.cdr ↔ c.Records env reply := by
  unfold Records
  by_cases hcdr : c.cdr.writed = true
  · -- a written CDR is left alone
    refine iff_of_true ?_ (.inl hcdr)
    simp [SbcState.recordRefusal, ReplyCdr.update_with_sip_reply, ReplyCdr.update_bleg_reason,
      ReplyCdr.update_internal_reason, ReplyCdr.update_aleg_reason, TimedCdr.update_bleg_reason,
      TimedCdr.update_internal_reason, TimedCdr.update_with_action, TimedCdr.update_aleg_reason,
      Cdr.update_internal_reason, Cdr.update_aleg_reason, hcdr]
  · rw [Bool.not_eq_true] at hcdr
    have hreply : c.cdr.update_with_sip_reply reply env.now =
        if reply.remote_port = 0 then c.cdr else c.cdr.update_legB reply := by
      have h200 : reply.code ≠ 200 := by omega
      have h10x : ¬ (100 ≤ reply.code ∧ reply.code < 110) := by omega
      have h18x : ¬ (180 ≤ reply.code ∧ reply.code < 190) := by omega
      simp [ReplyCdr.update_with_sip_reply, hcdr, h200, h10x, h18x]
    have htimed := TimedCdr.records_iff c.cdr.toTimedCdr hcdr
      (if reply.local_reply then .DisconnectByTS else .DisconnectByDST) reply.reason
      (SbcState.rewritten env c reply).1.2 (SbcState.rewritten env c reply).2.2 reply.code
      (SbcState.rewritten env c reply).1.1 (SbcState.rewritten env c reply).2.1 env.now
    -- the reasons and what the reply tells about the B leg are different fields
    have hsplit : SbcState.recordRefusal env c reply = c.cdr ↔
        (reply.remote_port = 0 ∨ c.cdr.update_legB reply = c.cdr) ∧
          ((c.cdr.toTimedCdr.update_bleg_reason reply.reason reply.code).update_internal_reason
            (if reply.local_reply then .DisconnectByTS else .DisconnectByDST)
            (SbcState.rewritten env c reply).1.2 (SbcState.rewritten env c reply).1.1
            env.now).update_aleg_reason (SbcState.rewritten env c reply).2.2
            (SbcState.rewritten env c reply).2.1 = c.cdr.toTimedCdr := by
      have hrecord : SbcState.recordRefusal env c reply =
          { (if reply.remote_port = 0 then c.cdr else c.cdr.update_legB reply) with
            toTimedCdr := ((c.cdr.toTimedCdr.update_bleg_reason reply.reason
              reply.code).update_internal_reason
              (if reply.local_reply then .DisconnectByTS else .DisconnectByDST)
              (SbcState.rewritten env c reply).1.2 (SbcState.rewritten env c reply).1.1
              env.now).update_aleg_reason (SbcState.rewritten env c reply).2.2
              (SbcState.rewritten env c reply).2.1 } := by
        unfold SbcState.recordRefusal
        rw [hreply]
        split_ifs <;> rfl
      rw [hrecord]
      by_cases hport : reply.remote_port = 0
      · rw [if_pos hport]
        apply (ReplyCdr.with_toTimedCdr_eq_iff c.cdr rfl).trans
        simp [hport]
      · have hsame : (c.cdr.update_legB reply).toTimedCdr = c.cdr.toTimedCdr := rfl
        rw [if_neg hport]
        apply (ReplyCdr.with_toTimedCdr_eq_iff (c.cdr.update_legB reply) hsame).trans
        simp [hport]
    rw [hsplit, htimed]
    simp [hcdr]

/-! ### The next profile -/

namespace CallCtx

variable {tr : CodesTranslator}

variable (tr) in
theorem skipLoop_moved (cdr : Cdr) (p : SqlCallProfile) (rest : List SqlCallProfile) (s : Skip)
    {q : SqlCallProfile} (h : (skipLoop tr cdr p rest s).1 = some q) :
    s.moved < (skipLoop tr cdr p rest s).2.moved := by
  have hmoved (p : SqlCallProfile) (s : Skip) : (skipProfile tr cdr p s).moved = s.moved := by
    unfold skipProfile
    dsimp only
    split_ifs <;> rfl
  induction rest generalizing p s with
  | nil => cases h
  | cons r rest ih =>
    rw [skipLoop] at h ⊢
    by_cases hskip : r.skip_code_id ≠ 0
    · rw [if_pos hskip] at h ⊢
      have hrest := ih r _ h
      have hbefore : s.moved < (skipProfile tr cdr p s).moved + 1 := by
        rw [hmoved]
        omega
      exact Nat.lt_trans hbefore hrest
    · rw [if_neg hskip]
      simp only [hmoved]
      omega

theorem takeNext_moves (ctx : CallCtx) (early_state resource_failover : Bool) (p : SqlCallProfile)
    (s : Skip) (hmoved : 0 < s.moved) :
    ((ctx.takeNext early_state resource_failover p s).2 = none →
        (ctx.takeNext early_state resource_failover p s).1.current_profile = ctx.current_profile ∧
          (ctx.takeNext early_state resource_failover p s).1.cdr = ctx.cdr) ∧
      ((ctx.takeNext early_state resource_failover p s).2 ≠ none →
        ctx.current_profile < (ctx.takeNext early_state resource_failover p s).1.current_profile) := by
  unfold takeNext
  split
  · exact ⟨fun _ => ⟨rfl, rfl⟩, fun h => absurd rfl h⟩
  · simp only []
    split
    · refine ⟨nofun, fun _ => ?_⟩
      show ctx.current_profile < ctx.current_profile + s.moved
      omega
    · refine ⟨nofun, fun _ => ?_⟩
      show ctx.current_profile < ctx.current_profile + s.moved
      omega

variable (tr) in
/-- A profile that is found lies behind the current one; else nothing changes. -/
theorem getNextProfile_moves (ctx : CallCtx) (early_state resource_failover : Bool) :
    ((ctx.getNextProfile tr early_state resource_failover).2 = none →
        (ctx.getNextProfile tr early_state resource_failover).1.current_profile =
            ctx.current_profile ∧
          (ctx.getNextProfile tr early_state resource_failover).1.cdr = ctx.cdr) ∧
      ((ctx.getNextProfile tr early_state resource_failover).2 ≠ none →
        ctx.current_profile <
          (ctx.getNextProfile tr early_state resource_failover).1.current_profile) := by
  unfold getNextProfile
  simp only []
  split
  · exact ⟨fun _ => ⟨rfl, rfl⟩, fun h => absurd rfl h⟩
  next p hp =>
    split
    · split
      next q s hloop =>
        apply takeNext_moves
        have hmoved := skipLoop_moved tr ctx.cdr p ctx.following
          { attempts_counter := ctx.cdr.attempt_num, written := ctx.written, moved := 0 }
          (by rw [hloop])
        rw [hloop] at hmoved
        exact hmoved
      next s hloop => exact ⟨fun _ => ⟨rfl, rfl⟩, fun h => absurd rfl h⟩
    · split
      · exact ⟨fun _ => ⟨rfl, rfl⟩, fun h => absurd rfl h⟩
      · exact takeNext_moves ctx early_state resource_failover _ _ Nat.one_pos

end CallCtx

namespace RefusalCtx

variable (tr : CodesTranslator) (c : RefusalCtx)

theorem getNextProfile_none (resource_failover : Bool)
    (h : (c.getNextProfile tr false resource_failover).2 = none) :
    (c.getNextProfile tr false resource_failover).1.current_profile = c.current_profile ∧
      (c.getNextProfile tr false resource_failover).1.cdr = c.cdr := by
  have hmoves := (CallCtx.getNextProfile_moves tr c.callCtx false resource_failover).1 h
  refine ⟨hmoves.1, ?_⟩
  have hfound : (c.callCtx.getNextProfile tr false resource_failover).2 = none := h
  unfold getNextProfile
  simp only [hfound, Option.isSome_none, Bool.false_and, Bool.false_eq_true, if_false, hmoves.2]
  rfl

theorem getNextProfile_some (resource_failover : Bool)
    (h : (c.getNextProfile tr false resource_failover).2 ≠ none) :
    c.current_profile < (c.getNextProfile tr false resource_failover).1.current_profile :=
  (CallCtx.getNextProfile_moves tr c.callCtx false resource_failover).2 h

theorem getNextProfile_le (resource_failover : Bool) :
    c.current_profile ≤ (c.getNextProfile tr false resource_failover).1.current_profile := by
  by_cases h : (c.getNextProfile tr false resource_failover).2 = none
  · exact Nat.le_of_eq (getNextProfile_none tr c resource_failover h).1.symm
  · exact Nat.le_of_lt (getNextProfile_some tr c resource_failover h)

end RefusalCtx

namespace SbcState

variable {env : RefusalEnv}

/-- The profile in use lies behind that of `c`. -/
def Past (n : Nat) (s : SbcState) : Prop := ∃ c, s.call_ctx = some c ∧ n < c.current_profile

/-- The loop never goes back. -/
theorem chooseLoop_past {n fuel : Nat} {s : SbcState} {c : RefusalCtx} {profile : SqlCallProfile}
    (h : n < c.current_profile) : (s.chooseLoop env fuel c profile).1.Past n := by
  induction fuel generalizing c profile with
  | zero => exact ⟨_, rfl, h⟩
  | succ fuel ih =>
    unfold chooseLoop
    split
    · exact ⟨_, rfl, h⟩
    split
    · exact ⟨_, rfl, h⟩
    · exact ⟨_, rfl, h⟩
    · exact ⟨_, rfl, h⟩
    · have hle := c.getNextProfile_le env.tr true
      split
      next c' hnext =>
        rw [hnext] at hle
        exact ⟨_, rfl, Nat.lt_of_lt_of_le h hle⟩
      next c' next hnext =>
        rw [hnext] at hle
        have h' : n < c'.current_profile := Nat.lt_of_lt_of_le h hle
        split
        · exact ⟨_, rfl, h'⟩
        · exact ih h'

variable (env) in
/-- The next profile is taken, or nothing changes. -/
theorem chooseNextProfile_cases (s : SbcState) (c : RefusalCtx) :
    ((c.getNextProfile env.tr false false).2 = none ∧ ∃ c', c'.current_profile = c.current_profile ∧
        c'.cdr = c.cdr ∧ s.chooseNextProfile env c = ({ s with call_ctx := some c' }, none)) ∨
      ((c.getNextProfile env.tr false false).2 ≠ none ∧
        (s.chooseNextProfile env c).1.Past c.current_profile) := by
  unfold chooseNextProfile
  split
  next c' hnext =>
    left
    have hsame := c.getNextProfile_none env.tr false (by rw [hnext])
    rw [hnext] at hsame ⊢
    exact ⟨rfl, c', hsame.1, hsame.2, rfl⟩
  next c' profile hnext =>
    right
    have hlt := c.getNextProfile_some env.tr false (by simp [hnext])
    rw [hnext] at hlt ⊢
    exact ⟨nofun, chooseLoop_past hlt⟩

/-! ### The hook -/

theorem put_handlers_iff (s : SbcState) (handler : String) :
    (s.put handler).handlers = s.handlers ↔ handler = "" ∨ handler ∉ s.handlers := by
  unfold put
  by_cases hempty : handler = ""
  · simp [hempty]
  · rw [if_neg hempty, List.filter_eq_self]
    constructor
    · intro h
      right
      intro hmem
      simpa using h handler hmem
    · intro h a ha
      have hne : a ≠ handler := by
        rintro rfl
        exact h.resolve_left hempty ha
      simpa using hne

theorem put_crashed (s : SbcState) (handler : String) : (s.put handler).crashed = s.crashed := by
  unfold put
  split_ifs <;> rfl

theorem put_call_ctx (s : SbcState) (handler : String) : (s.put handler).call_ctx = s.call_ctx := by
  unfold put
  split_ifs <;> rfl

theorem dial_past {n : Nat} {leg : CallLeg} {s : SbcState} (h : s.Past n)
    (profile : SqlCallProfile) : (dial env leg s profile).1.2.Past n := by
  obtain ⟨c, hc, hlt⟩ := h
  unfold dial
  split
  · exact ⟨c, hc, hlt⟩
  · exact ⟨c, hc, hlt⟩
  · -- the CDR says what has gone wrong
    dsimp only
    rw [hc]
    exact ⟨_, rfl, hlt⟩

variable (env) in
/-- Once the refusal is recorded, a profile is taken, or the leg and the CDR stay. -/
theorem hunt_cases (leg : CallLeg) (s : SbcState) {c : RefusalCtx} (reply : AmSipReply)
    (hc : s.call_ctx = some c) (hlive : s.crashed = false) :
    ((hunt env leg s c reply).1.2.Past c.current_profile ∧ ¬ c.Rests env s.handlers reply) ∨
      ∃ s' c', hunt env leg s c reply = ((leg, s'), false) ∧ s'.call_ctx = some c' ∧
        c'.current_profile = c.current_profile ∧ c'.cdr = c.cdr ∧
        (s'.handlers = s.handlers ∧ s'.crashed = false ↔ c.Rests env s.handlers reply) := by
  unfold hunt RefusalCtx.Rests
  by_cases hstop : env.tables.stop_hunting reply.code
      ((c.getCurrentProfile.map env.bleg_override_id).getD 0) = true
  · right
    rw [if_pos hstop]
    exact ⟨s, c, rfl, hc, rfl, rfl, iff_of_true ⟨rfl, hlive⟩ (.inl hstop)⟩
  rw [if_neg hstop]
  cases hcurrent : c.getCurrentProfile with
  | none =>
    right
    rw [hcurrent, Option.map_none, Option.getD_none] at hstop
    exact ⟨_, c, rfl, hc, rfl, rfl, iff_of_false nofun (by simp [hstop])⟩
  | some profile =>
    rw [hcurrent, Option.map_some, Option.getD_some] at hstop
    have hput := s.put_handlers_iff profile.resource_handler
    have hcrashed := (s.put_crashed profile.resource_handler).trans hlive
    have hctx := (s.put_call_ctx profile.resource_handler).trans hc
    by_cases hinvite : c.initial_invite = false
    · right
      simp only [if_pos hinvite]
      refine ⟨_, c, rfl, hctx, rfl, rfl, ?_⟩
      rw [hput]
      simp [hstop, hinvite, hcrashed]
    · simp only [if_neg hinvite]
      rcases chooseNextProfile_cases env (s.put profile.resource_handler) c with
        ⟨hnone, c', hsame, hcdr, hchoose⟩ | ⟨hsome, hpast⟩
      · right
        rw [hchoose]
        refine ⟨_, c', rfl, rfl, hsame, hcdr, ?_⟩
        show (s.put _).handlers = _ ∧ (s.put _).crashed = _ ↔ _
        rw [hput]
        simp [hstop, hnone, hcrashed]
      · left
        refine ⟨?_, by simp [hstop, hinvite, hsome]⟩
        split
        next s' hchoose =>
          rw [hchoose] at hpast
          exact hpast
        next s' next hchoose =>
          rw [hchoose] at hpast
          exact dial_past hpast next

/-- With the peer known, the hook ignores the reply; else what it records and does shows
    in the CDR, the profile in use or the resources. -/
theorem onBLegRefused_cases (env : RefusalEnv) (leg : CallLeg) {s : SbcState} {reply : AmSipReply}
    (hcode : 300 ≤ reply.code) (hother : reply.from_tag ≠ leg.other_id)
    (hlive : s.crashed = false) :
    ((∃ c, s.call_ctx = some c ∧ (onBLegRefused env leg s reply).1.2.Past c.current_profile) ∧
        ¬ (leg.other_id ≠ "" ∨
          ∀ c ∈ s.call_ctx, c.Records env reply ∧ c.Rests env s.handlers reply)) ∨
      ∃ s', onBLegRefused env leg s reply = ((leg, s'), false) ∧
        s'.call_ctx.map (·.current_profile) = s.call_ctx.map (·.current_profile) ∧
        (s'.call_ctx.map (·.cdr) = s.call_ctx.map (·.cdr) ∧ s'.handlers = s.handlers ∧
            s'.crashed = false ↔
          leg.other_id ≠ "" ∨
            ∀ c ∈ s.call_ctx, c.Records env reply ∧ c.Rests env s.handlers reply) := by
  unfold onBLegRefused
  by_cases hpeer : leg.other_id = ""
  swap
  · right
    rw [if_pos ⟨hpeer, hother⟩]
    exact ⟨s, rfl, rfl, iff_of_true ⟨rfl, rfl, hlive⟩ (.inl hpeer)⟩
  rw [if_neg (by simp [hpeer])]
  cases hctx : s.call_ctx with
  | none =>
    right
    refine ⟨s, rfl, by rw [hctx], iff_of_true ⟨by rw [hctx], rfl, hlive⟩ (.inr ?_)⟩
    intro c hc
    cases hc
  | some c =>
    have hrecords := c.records_iff env hcode
    simp only [hpeer, ne_eq, not_true_eq_false, false_or, Option.mem_some_iff, forall_eq',
      Option.map_some, Option.some_inj]
    -- a refusal that is recorded already leaves the context as it was
    have hsame : c.Records env reply → { c with cdr := recordRefusal env c reply } = c :=
      fun h => congrArg (fun cdr => { c with cdr := cdr }) (hrecords.mpr h)
    rcases hunt_cases env leg { s with call_ctx := some { c with cdr := recordRefusal env c reply } }
        reply rfl hlive with
      ⟨hpast, hrests⟩ | ⟨s', c', hhunt, hctx', hprofile, hcdr, hcalm⟩
    · left
      refine ⟨⟨c, rfl, hpast⟩, ?_⟩
      intro ⟨hrec, hrest⟩
      rw [hsame hrec] at hrests
      exact hrests hrest
    · right
      refine ⟨s', hhunt, by rw [hctx', Option.map_some, hprofile], ?_⟩
      rw [hctx', Option.map_some, Option.some_inj, hcdr, hrecords]
      refine and_congr_right fun hrec => ?_
      rw [hsame hrec] at hcalm
      exact hcalm

end SbcState

/-! ### Replies of removed legs -/

theorem CallLeg.removeOtherLeg_unknown {leg : CallLeg} {id : String} (hother : id ≠ leg.other_id)
    (hlegs : id ∉ leg.other_legs) : leg.removeOtherLeg id = leg := by
  have hfilter : leg.other_legs.filter (· ≠ id) = leg.other_legs := by
    rw [List.filter_eq_self]
    intro a ha
    have hne : a ≠ id := fun h => hlegs (h ▸ ha)
    simpa using hne
  unfold removeOtherLeg
  rw [if_neg hother.symm, hfilter]

theorem SbcState.Past.current_profile_ne {s s' : SbcState} {c : RefusalCtx}
    (h : s'.Past c.current_profile) (hctx : s.call_ctx = some c) :
    s'.call_ctx.map (·.current_profile) ≠ s.call_ctx.map (·.current_profile) := by
  obtain ⟨c', hctx', hlt⟩ := h
  rw [hctx, hctx', Option.map_some, Option.map_some]
  intro heq
  have := Option.some_inj.mp heq
  omega

namespace SbcState

variable (env : RefusalEnv) (leg : CallLeg) (s : SbcState) (reply : AmSipReply)

/-- While another leg rings, only the hook is run. -/
theorem b2bInitialErr_ringing (hother : reply.from_tag ≠ leg.other_id)
    (hlegs : reply.from_tag ∉ leg.other_legs) (hstatus : leg.call_status = .Ringing) :
    CallLeg.b2bInitialErr (onBLegRefused env) leg s reply = (onBLegRefused env leg s reply).1 := by
  unfold CallLeg.b2bInitialErr
  rw [if_pos ⟨hstatus, hother.symm⟩, CallLeg.removeOtherLeg_unknown hother hlegs]

/-- Before the first 1xx, the hook is run, and the call stops if there is no leg left. -/
theorem b2bInitialErr_noReply (hother : reply.from_tag ≠ leg.other_id)
    (hlegs : reply.from_tag ∉ leg.other_legs) (hstatus : leg.call_status = .NoReply) :
    CallLeg.b2bInitialErr (onBLegRefused env) leg s reply =
      match onBLegRefused env leg s reply with
      | (r, true) => r
      | ((leg, s), false) =>
        if leg.other_legs ≠ [] then ({ leg with sip_relay_only := false }, s)
        else ({ leg with sip_relay_only := false, call_status := .Disconnected }.stopCall, s) := by
  have hsame : { leg.removeOtherLeg reply.from_tag with call_status := .NoReply } = leg := by
    rw [CallLeg.removeOtherLeg_unknown hother hlegs, ← hstatus]
  unfold CallLeg.b2bInitialErr
  rw [if_neg (by simp [hstatus]), hsame]
  rcases onBLegRefused env leg s reply with ⟨⟨leg', s'⟩, _ | _⟩ <;> rfl

/-- A 487 continues the hunting; the next callee has the tag `b3`. -/
def huntingEnv : RefusalEnv where
  now := 100
  tr := ⟨[], [], false, 0⟩
  tables := { code2pref := [(487, false)] }
  bleg_override_id := fun _ => 0
  get := fun _ => .RES_CTL_OK none
  failure := fun _ => ("", 0)
  connectCalleeRequest := fun _ => .callee "b3"

/-- The second of three profiles is being tried, and holds a resource. -/
def secondAttempt : SbcState where
  call_ctx := some
    { profiles := [⟨"sip:1", "", 0, 0, 0, 0, 1, false, "", 0, 0, "", ""⟩,
        ⟨"sip:2", "", 0, 0, 0, 0, 1, false, "", 0, 0, "", "h2"⟩,
        ⟨"sip:3", "", 0, 0, 0, 0, 1, false, "", 0, 0, "", ""⟩]
      current_profile := 1
      cdr := { toCdr := .ofProfile ⟨"sip:2", "", 0, 0, 0, 0, 1, false, "", 0, 0, "", "h2"⟩
               start_time := 1, end_time := 1 } }
  handlers := ["h2"]

/-- The reply of a leg that was told to terminate. -/
def terminatedReply : AmSipReply := { code := 487, reason := "Request terminated", from_tag := "b1" }

end SbcState

end Yeti.Call
