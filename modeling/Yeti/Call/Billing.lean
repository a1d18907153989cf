import Mathlib.Data.List.Nodup
import Mathlib.Data.List.Perm.Subperm
import Mathlib.Data.List.Range
import Yeti.Call.RefusedLegs

/-! # The attempts of a call and their CDRs

    Over any run of an A leg, with replies from any leg in any order: the profiles are
    dialled in the order of the list and none of them twice, every leg that was dialled
    has its own CDR, and the last CDR of the call is written once and comes last.
-/

open LTS

namespace Yeti.Call

namespace HuntingLeg

variable {T : Type}

/-! ### The invariant -/

/-- What was billed for the legs that were dialled. -/
def dialledBills (s : HuntingLeg T) : List Bill := s.dialled.map fun d => d.profile.bill

/-- The last CDR was written once, after all others. -/
def Finished (written : List Cdr) : Prop :=
  ∃ before last, written = before ++ [last] ∧ (∀ cdr ∈ before, cdr.Posted) ∧
    last.writed = true ∧ last.is_last = true

/-- The CDRs are complete, and all legs are among them. -/
def Billed (s : HuntingLeg T) (written : List Cdr) : Prop :=
  Finished written ∧ s.dialledBills.Sublist (written.map Cdr.bill)

/-- The invariant. -/
structure Inv (s : HuntingLeg T) : Prop where
  tags : "" ∉ s.tags
  nodup : s.tags.Nodup
  legs : ∀ tag ∈ s.leg.other_legs, tag ∈ s.tags
  ascending : s.dialled.Pairwise fun d d' => d.position < d'.position
  unprocessed : s.processed = false → s.dialled = [] ∧ s.leg.call_status = .Disconnected
  position : ∀ c, s.sbc.call_ctx = some c → c.current_profile < c.profiles.length ∧
    ∀ d ∈ s.dialled, d.position ≤ c.current_profile
  /-- The CDR in use is not written yet. -/
  going : s.cdr_posted = false →
    ∃ c, s.sbc.call_ctx = some c ∧ c.Billed ∧ s.dialledBills.Sublist c.bills
  ended : s.cdr_posted = true →
    (∃ c, s.sbc.call_ctx = some c ∧ s.leg.call_status = .Disconnected ∧ s.leg.stopped = true ∧
      s.Billed c.written) ∨ s.sbc.call_ctx = none ∧ s.Billed s.posted

variable {s : HuntingLeg T}

theorem finished_write_cdr {c : RefusalCtx} (h : c.Billed) :
    Finished (CallCtx.write_cdr c.written c.cdr.toCdr true) ∧
      (CallCtx.write_cdr c.written c.cdr.toCdr true).map Cdr.bill = c.bills := by
  rw [write_cdr_unwritten h.unwritten]
  refine ⟨⟨_, _, rfl, h.posted, rfl, rfl⟩, ?_⟩
  unfold RefusalCtx.bills
  rw [List.map_append, List.map_append]
  rfl

/-! ### Steps that leave the context alone -/

/-- The leg loses other legs at most, and stays ended; the timers do not matter. -/
theorem Inv.frame (h : s.Inv) (leg : CallLeg) (timers : CallTimers T)
    (hlegs : ∀ tag ∈ leg.other_legs, tag ∈ s.leg.other_legs)
    (hended : s.leg.call_status = .Disconnected →
      leg.call_status = .Disconnected ∧ (s.leg.stopped = true → leg.stopped = true)) :
    Inv { s with leg := leg, timers := timers } where
  tags := h.tags
  nodup := h.nodup
  legs tag htag := h.legs tag (hlegs tag htag)
  ascending := h.ascending
  unprocessed hfalse := (h.unprocessed hfalse).imp_right fun hstatus => (hended hstatus).1
  position := h.position
  going := h.going
  ended hposted := by
    refine (h.ended hposted).imp_left ?_
    rintro ⟨c, hctx, hstatus, hstopped, hbilled⟩
    obtain ⟨hstatus', hstopped'⟩ := hended hstatus
    exact ⟨c, hctx, hstatus', hstopped' hstopped, hbilled⟩

theorem Inv.timers (h : s.Inv) (timers : CallTimers T) : Inv { s with timers := timers } :=
  h.frame s.leg timers (fun _ htag => htag) (fun hstatus => ⟨hstatus, id⟩)

theorem Inv.stopCall (h : s.Inv) : s.stopCall.Inv :=
  h.frame s.leg.stopCall s.timers (fun _ htag => CallLeg.mem_of_mem_stopCall htag)
    (fun _ => ⟨rfl, fun _ => rfl⟩)

theorem Inv.terminateLeg (h : s.Inv) : s.terminateLeg.Inv :=
  h.frame { s.leg with stopped := true } s.timers (fun _ htag => htag)
    (fun hstatus => ⟨hstatus, fun _ => rfl⟩)

theorem Inv.timeout (h : s.Inv) (timer_id : Int) : (s.timeout timer_id).Inv := by
  have htimers := h.timers (s.timers.removeTimer timer_id)
  unfold HuntingLeg.timeout
  dsimp only
  split_ifs
  · exact htimers
  · exact htimers.stopCall
  · exact htimers

/-! ### Steps of the context -/

/-- The context of a call that is not over. -/
theorem Inv.going_of_waiting (h : s.Inv) {c : RefusalCtx} (hctx : s.sbc.call_ctx = some c)
    (hwaits : ¬ (s.leg.call_status = .Disconnected ∧ s.leg.stopped = true)) :
    s.cdr_posted = false ∧ c.Billed ∧ s.dialledBills.Sublist c.bills := by
  have hposted : s.cdr_posted = false := by
    by_contra hposted
    rcases h.ended (by simpa using hposted) with ⟨_, _, hstatus, hstopped, _⟩ | ⟨hnone, _⟩
    · exact hwaits ⟨hstatus, hstopped⟩
    · rw [hctx] at hnone
      cases hnone
  obtain ⟨c', hctx', hbilled, hbills⟩ := h.going hposted
  obtain rfl : c = c' := Option.some_inj.mp (hctx.symm.trans hctx')
  exact ⟨hposted, hbilled, hbills⟩

/-- A later context, and no new leg. -/
theorem Inv.later (h : s.Inv) {c c' : RefusalCtx} {sbc : SbcState}
    (hctx : s.sbc.call_ctx = some c) (hposted : s.cdr_posted = false)
    (hctx' : sbc.call_ctx = some c') (hbilled : c'.Billed) (hle : c.current_profile ≤ c'.current_profile)
    (hbills : s.dialledBills.Sublist c'.bills) (processed : Bool)
    (hprocessed : processed = false → s.processed = false) :
    Inv { s with sbc := sbc, processed := processed } where
  tags := h.tags
  nodup := h.nodup
  legs := h.legs
  ascending := h.ascending
  unprocessed hfalse := h.unprocessed (hprocessed hfalse)
  position c'' hctx'' := by
    obtain rfl : c' = c'' := Option.some_inj.mp (hctx'.symm.trans hctx'')
    obtain ⟨p, hp, -⟩ := hbilled.profile
    refine ⟨RefusalCtx.getCurrentProfile_lt hp, ?_⟩
    intro d hd
    exact Nat.le_trans ((h.position c hctx).2 d hd) hle
  going _ := ⟨c', hctx', hbilled, hbills⟩
  ended htrue := by
    rw [hposted] at htrue
    cases htrue

/-- A leg is dialled for a profile after those of the other legs. -/
theorem Inv.dial (h : s.Inv) {c c' : RefusalCtx} {sbc : SbcState} {leg : CallLeg}
    {profile : SqlCallProfile} {tag : String}
    (hctx : s.sbc.call_ctx = some c) (hposted : s.cdr_posted = false)
    (hctx' : sbc.call_ctx = some c') (hbilled : c'.Billed)
    (hlt : s.dialled ≠ [] → c.current_profile < c'.current_profile)
    (hprofile : c'.getCurrentProfile = some profile)
    (hbills : s.dialledBills.Sublist (c'.written.map Cdr.bill))
    (hnew : s.newTag tag = true)
    (hlegs : ∀ t ∈ leg.other_legs, t ∈ s.leg.other_legs ∨ t = tag)
    (timers : CallTimers T) :
    Inv { s with
      leg := leg
      sbc := sbc
      timers := timers
      processed := true
      dialled := s.dialled ++ [⟨tag, c'.current_profile, profile⟩] } := by
  obtain ⟨hne, hfresh⟩ : tag ≠ "" ∧ tag ∉ s.tags := by simpa [newTag] using hnew
  have htags : (s.dialled ++ [(⟨tag, c'.current_profile, profile⟩ : DialledLeg)]).map (·.tag) =
      s.tags ++ [tag] := by simp [HuntingLeg.tags]
  -- the profiles of the legs before come before that of the context
  have hbefore : ∀ d ∈ s.dialled, d.position < c'.current_profile := by
    intro d hd
    exact Nat.lt_of_le_of_lt ((h.position c hctx).2 d hd) (hlt (List.ne_nil_of_mem hd))
  refine ⟨?_, ?_, ?_, ?_, fun hfalse => Bool.noConfusion hfalse, ?_, ?_, ?_⟩
  · show "" ∉ (s.dialled ++ [_]).map _
    rw [htags, List.mem_append, List.mem_singleton]
    rintro (hmem | heq)
    · exact h.tags hmem
    · exact hne heq.symm
  · show ((s.dialled ++ [_]).map _).Nodup
    rw [htags]
    refine List.nodup_append.mpr ⟨h.nodup, List.nodup_singleton tag, ?_⟩
    intro a ha b hb hab
    rw [hab, List.mem_singleton.mp hb] at ha
    exact hfresh ha
  · intro t ht
    show t ∈ (s.dialled ++ [_]).map _
    rw [htags]
    rcases hlegs t ht with hold | rfl
    · exact List.mem_append_left _ (h.legs t hold)
    · exact List.mem_append_right _ (List.mem_singleton.mpr rfl)
  · refine List.pairwise_append.mpr ⟨h.ascending, List.pairwise_singleton _ _, ?_⟩
    intro d hd d' hd'
    rw [List.mem_singleton.mp hd']
    exact hbefore d hd
  · intro c'' hctx''
    obtain rfl : c' = c'' := Option.some_inj.mp (hctx'.symm.trans hctx'')
    refine ⟨RefusalCtx.getCurrentProfile_lt hprofile, ?_⟩
    intro d hd
    rcases List.mem_append.mp hd with hd | hd
    · exact Nat.le_of_lt (hbefore d hd)
    · rw [List.mem_singleton.mp hd]
  · intro _
    refine ⟨c', hctx', hbilled, ?_⟩
    obtain ⟨q, hq, hbill⟩ := hbilled.profile
    obtain rfl : q = profile := Option.some_inj.mp (hq.symm.trans hprofile)
    show ((s.dialled ++ [_]).map _).Sublist ((c'.written ++ [c'.cdr.toCdr]).map Cdr.bill)
    rw [List.map_append, List.map_append, List.map_singleton, List.map_singleton, hbill]
    exact hbills.append (List.Sublist.refl _)
  · intro htrue
    rw [hposted] at htrue
    cases htrue

/-- A context that is not over, when only its CDR records more. -/
theorem Inv.record (h : s.Inv) {c : RefusalCtx} (hctx : s.sbc.call_ctx = some c)
    (hposted : s.cdr_posted = false) {cdr : ReplyCdr} (hsame : c.cdr.toCdr.Same cdr.toCdr)
    {sbc : SbcState} (hsbc : sbc.call_ctx = some { c with cdr := cdr }) (processed : Bool)
    (hprocessed : processed = false → s.processed = false) :
    Inv { s with sbc := sbc, processed := processed } := by
  obtain ⟨c', hctx', hbilled, hbills⟩ := h.going hposted
  obtain rfl : c = c' := Option.some_inj.mp (hctx.symm.trans hctx')
  exact h.later hctx hposted hsbc (hbilled.record hsame) (Nat.le_refl c.current_profile)
    (RefusalCtx.bills_record c hsame ▸ hbills) processed hprocessed

/-- The context is deleted. -/
theorem Inv.finish (h : s.Inv) {sbc : SbcState} (hsbc : sbc.call_ctx = none) {written : List Cdr}
    (hbilled : s.Billed written) :
    Inv { s with sbc := sbc, posted := written, cdr_posted := true } where
  tags := h.tags
  nodup := h.nodup
  legs := h.legs
  ascending := h.ascending
  unprocessed := h.unprocessed
  position c hctx := by
    rw [hsbc] at hctx
    cases hctx
  going := nofun
  ended _ := .inr ⟨hsbc, hbilled⟩

/-! ### Steps -/

section Steps

variable [IntCast T]

omit [IntCast T] in
theorem Inv.updateCdr (h : s.Inv) (es : List CdrEvent) : (s.updateCdr es).Inv := by
  have hsame (cdr : TimedCdr) : cdr.toCdr.Same (es.foldl (fun cdr e => e.apply cdr) cdr).toCdr := by
    induction es generalizing cdr with
    | nil => exact .refl cdr.toCdr
    | cons e es ih => exact (Cdr.Same.apply e cdr).trans (ih _)
  cases hposted : s.cdr_posted with
  | true =>
    have hself : s.updateCdr es = s := by
      obtain ⟨leg, sbc, timers, processed, dialled, cdr_posted, posted⟩ := s
      obtain rfl : cdr_posted = true := hposted
      unfold HuntingLeg.updateCdr
      simp only [if_true, Option.map_id']
    rw [hself]
    exact h
  | false =>
    obtain ⟨c, hctx, -⟩ := h.going hposted
    have hsbc : (s.updateCdr es).sbc.call_ctx = some { c with cdr := { c.cdr with
        toTimedCdr := es.foldl (fun cdr e => e.apply cdr) c.cdr.toTimedCdr } } := by
      show s.sbc.call_ctx.map _ = _
      rw [hctx, hposted]
      rfl
    exact h.record hctx hposted (hsame c.cdr.toTimedCdr) hsbc s.processed id

omit [IntCast T] in
theorem Inv.positive (h : s.Inv) (env : RefusalEnv) (reply : AmSipReply) (forward relayed : Bool)
    (hstatus : s.leg.call_status ≠ .Disconnected) : (s.positive env reply forward relayed).Inv := by
  unfold HuntingLeg.positive HuntingLeg.onCallConnected
  split_ifs
  · exact (h.updateCdr _).frame _ _ (fun _ htag => CallLeg.mem_of_mem_onPositiveReply htag)
      (fun hended => absurd hended hstatus)
  · exact h.frame _ _ (fun _ htag => CallLeg.mem_of_mem_onPositiveReply htag)
      (fun hended => absurd hended hstatus)

omit [IntCast T] in
theorem Inv.onBye (h : s.Inv) (now : Nat) : (s.onBye now).Inv := by
  unfold HuntingLeg.onBye
  split_ifs
  · exact h
  all_goals
    exact (h.updateCdr _).frame _ s.timers (fun _ htag => (List.mem_filter.mp htag).1)
      (fun _ => ⟨rfl, fun _ => rfl⟩)

/-- A refused leg. -/
theorem Inv.refused (h : s.Inv) (env : RefusalEnv) (reply : AmSipReply) {connect : ConnectResult}
    (hstatus : s.leg.call_status ≠ .Disconnected) (hnew : s.newLeg connect = true) :
    (s.refused env reply connect).Inv := by
  have hwaits : ¬ (s.leg.call_status = .Disconnected ∧ s.leg.stopped = true) :=
    fun hended => hstatus hended.1
  have hprocessed : s.processed = true := by
    by_contra hfalse
    exact hstatus (h.unprocessed (by simpa using hfalse)).2
  cases hctx : s.sbc.call_ctx with
  | none =>
    obtain ⟨leg', timers', heq, hleg⟩ := refused_none hctx env reply connect
    rw [heq]
    exact h.frame leg' timers'
      (fun tag htag => CallLeg.mem_of_mem_refusedBase (hleg.mem htag))
      (fun hended => absurd hended hstatus)
  | some c =>
    obtain ⟨hposted, hbilled, hbills⟩ := h.going_of_waiting hctx hwaits
    cases refused_cases hctx hbilled h.legs env reply hnew with
    | keeps heq hctx' hbilled' hlater hbills' hleg =>
      rw [heq]
      have hlater' := h.later hctx hposted hctx' hbilled' hlater.le (hbills.trans hbills')
        s.processed id
      exact hlater'.frame _ _
        (fun tag htag => CallLeg.mem_of_mem_refusedBase (hleg.mem htag))
        (fun hended => absurd hended hstatus)
    | dials heq hctx' hbilled' hlater hlt hbills' hprofile hnew' hleg =>
      rw [heq]
      simp only [hprocessed]
      exact h.dial hctx hposted hctx' hbilled' (fun _ => hlt) hprofile (hbills.trans hbills') hnew'
        (fun tag htag => (CallLeg.mem_addNewCallee (hleg.mem htag)).imp_left
          CallLeg.mem_of_mem_refusedBase) _

/-- The first leg is dialled, or an exception is thrown. -/
theorem Inv.route (h : s.Inv) {c : RefusalCtx} (hctx : s.sbc.call_ctx = some c)
    (hposted : s.cdr_posted = false) (hbilled : c.Billed) (hnone : s.dialled = [])
    (hprocessed : s.processed = true) {profile : SqlCallProfile}
    (hprofile : c.getCurrentProfile = some profile) (env : RoutingEnv) {result : RoutingResult}
    (hnew : s.newFirstLeg result = true) : (s.route env profile result).Inv := by
  have hbills : s.dialledBills.Sublist c.bills := by
    unfold dialledBills
    rw [hnone]
    exact List.nil_sublist _
  -- an exception is recorded in the CDR
  have hcaught (reason : String) (code : Int) :
      Inv { s with sbc := (s.sbc.put profile.resource_handler).caught env reason code } := by
    have hsame : c.cdr.toCdr.Same
        (c.cdr.update_internal_reason .DisconnectByTS reason code env.now).toCdr :=
      Cdr.Same.timed_update_internal_reason _ _ _ _ _
    have hsbc : ((s.sbc.put profile.resource_handler).caught env reason code).call_ctx =
        some { c with
          cdr := c.cdr.update_internal_reason .DisconnectByTS reason code env.now } := by
      unfold SbcState.caught
      rw [SbcState.put_ctx, hctx]
      rfl
    exact h.record hctx hposted hsame hsbc s.processed id
  cases result with
  | sdpException reason code => exact (hcaught reason code).terminateLeg
  | exception dialing reason code => exact ((hcaught reason code).timers _).terminateLeg
  | callee tag =>
    have hnobills : s.dialledBills.Sublist (c.written.map Cdr.bill) := by
      unfold dialledBills
      rw [hnone]
      exact List.nil_sublist _
    have hcallee : ∀ t ∈ (s.leg.addNewCallee tag).other_legs, t ∈ s.leg.other_legs ∨ t = tag :=
      fun t ht => CallLeg.mem_addNewCallee ht
    have hdial := h.dial hctx hposted hctx hbilled (fun hne => absurd hnone hne) hprofile hnobills
      hnew hcallee { s.timers.saveTimeLimit profile.time_limit with m_state := .BB_Dialing }
    rw [← hprocessed] at hdial
    have hnoted := noteDialled_present
      (s := { s with
        timers := { s.timers.saveTimeLimit profile.time_limit with m_state := .BB_Dialing }
        leg := s.leg.addNewCallee tag }) hctx hprofile (s.leg.addNewCallee_mem tag)
    unfold HuntingLeg.route
    dsimp only
    rw [hnoted]
    exact hdial

theorem Inv.processResourcesAndSdp (h : s.Inv) {c : RefusalCtx} {profile : SqlCallProfile}
    (hctx : s.sbc.call_ctx = some c) (hprofile : c.getCurrentProfile = some profile)
    (hunprocessed : s.processed = false) (hstopped : s.leg.stopped = false) (env : RoutingEnv)
    {result : RoutingResult} (hnew : s.newFirstLeg result = true) :
    (s.processResourcesAndSdp env c profile result).Inv := by
  obtain ⟨hposted, hbilled, hbills⟩ := h.going_of_waiting hctx (by simp [hstopped])
  have hnone := (h.unprocessed hunprocessed).1
  obtain ⟨c', hfinds⟩ := SbcState.finds_processLoop env c.profiles.length s.sbc hbilled hprofile
  have hbills' : s.dialledBills.Sublist c'.bills := by
    unfold dialledBills
    rw [hnone]
    exact List.nil_sublist _
  have hlater := h.later hctx hposted hfinds.ctx hfinds.billed hfinds.later.le hbills' true nofun
  unfold HuntingLeg.processResourcesAndSdp
  split
  next sbc heq =>
    rw [heq] at hlater
    exact hlater.terminateLeg
  next sbc found heq =>
    rw [heq] at hlater hfinds
    exact hlater.route hfinds.ctx hposted hfinds.billed hnone rfl (hfinds.found found rfl) env hnew

omit [IntCast T] in
/-- The last CDR is written, and the call ends. -/
theorem Inv.write (h : s.Inv) {c : RefusalCtx} (hctx : s.sbc.call_ctx = some c)
    (hposted : s.cdr_posted = false) :
    Inv { s with
      leg := { s.leg with call_status := .Disconnected, stopped := true }
      sbc := { s.sbc with
        call_ctx := some { c with written := CallCtx.write_cdr c.written c.cdr.toCdr true } }
      cdr_posted := true } := by
  obtain ⟨c', hctx', hbilled, hbills⟩ := h.going hposted
  obtain rfl : c = c' := Option.some_inj.mp (hctx.symm.trans hctx')
  obtain ⟨hfinished, hsame⟩ := finished_write_cdr hbilled
  refine ⟨h.tags, h.nodup, h.legs, h.ascending, fun hfalse => ⟨(h.unprocessed hfalse).1, rfl⟩,
    fun c' hc' => ?_, fun hfalse => Bool.noConfusion hfalse, fun _ => .inl ?_⟩
  · obtain rfl := Option.some_inj.mp hc'
    exact h.position c hctx
  · exact ⟨_, rfl, rfl, rfl, hfinished, hsame ▸ hbills⟩

omit [IntCast T] in
/-- The call ends, and its last CDR was written before or is written later. -/
theorem Inv.disconnect (h : s.Inv) {sbc : SbcState} {cdr_posted : Bool} (hsbc : sbc = s.sbc)
    (hposted : cdr_posted = s.cdr_posted) :
    Inv { s with
      leg := { s.leg with call_status := .Disconnected, stopped := true }
      sbc := sbc
      cdr_posted := cdr_posted } := by
  subst hsbc hposted
  exact h.frame _ s.timers (fun _ htag => htag) (fun _ => ⟨rfl, fun _ => rfl⟩)

omit [IntCast T] in
/-- A BYE of the other leg before the call is connected writes the last CDR. -/
theorem Inv.onOtherBye (h : s.Inv) (now : Nat) : (s.onOtherBye now).Inv := by
  unfold HuntingLeg.onOtherBye
  by_cases hearly : s.leg.call_status ≠ .Connected
  · have hupdated := h.updateCdr
      [.update_internal_reason .DisconnectByDST "EarlyBye" 500 now,
        .update_aleg_reason "Request terminated" 487]
    simp only [decide_eq_true hearly, if_true, Bool.true_and, Bool.and_true]
    generalize s.updateCdr _ = s' at hupdated
    cases hposted : s'.cdr_posted with
    | true =>
      refine hupdated.disconnect ?_ hposted.symm
      simp only [Bool.not_true, Bool.false_eq_true, if_false, Option.map_id']
    | false =>
      obtain ⟨c, hctx, -⟩ := hupdated.going hposted
      rw [hctx]
      exact hupdated.write hctx hposted
  · simp only [decide_eq_false hearly, Bool.false_eq_true, if_false, Bool.false_and, Bool.and_false,
      Bool.or_false]
    exact h.disconnect (by rw [Option.map_id']) rfl

omit [IntCast T] in
theorem Inv.onBeforeDestroy (h : s.Inv) {c : RefusalCtx} (hctx : s.sbc.call_ctx = some c) :
    (s.onBeforeDestroy c).Inv := by
  have hbilled : s.Billed
      (if s.cdr_posted then c.written else CallCtx.write_cdr c.written c.cdr.toCdr true) := by
    by_cases hposted : s.cdr_posted = true
    · rw [if_pos hposted]
      rcases h.ended hposted with ⟨c', hctx', -, -, hbilled⟩ | ⟨hnone, -⟩
      · obtain rfl : c = c' := Option.some_inj.mp (hctx.symm.trans hctx')
        exact hbilled
      · rw [hctx] at hnone
        cases hnone
    · rw [if_neg hposted]
      obtain ⟨c', hctx', hbilled, hbills⟩ := h.going (by simpa using hposted)
      obtain rfl : c = c' := Option.some_inj.mp (hctx.symm.trans hctx')
      obtain ⟨hfinished, hsame⟩ := finished_write_cdr hbilled
      exact ⟨hfinished, hsame ▸ hbills⟩
  exact h.finish rfl hbilled

/-- **The step lemma.** -/
theorem Inv.next (h : s.Inv) {l : Label T} {s' : HuntingLeg T} (hnext : s.next l = some s') :
    s'.Inv := by
  cases l with
  | processResourcesAndSdp env result =>
    unfold HuntingLeg.next at hnext
    dsimp only at hnext
    split_ifs at hnext with hidle hnew
    swap
    · simp at hnext
    simp only [Option.bind_eq_some_iff] at hnext
    obtain ⟨c, hctx, profile, hprofile, hnext⟩ := hnext
    simp only [Bool.or_eq_true, not_or, Bool.not_eq_true] at hidle
    rw [← Option.some_inj.mp hnext]
    exact h.processResourcesAndSdp hctx hprofile hidle.1.1 hidle.1.2 env hnew
  | reply env reply forward relayed connect =>
    unfold HuntingLeg.next at hnext
    dsimp only at hnext
    split_ifs at hnext with hinitial hpositive hnew
    · have hstatus : s.leg.call_status ≠ .Disconnected := by
        rcases hinitial.1 with heq | heq <;> rw [heq] <;> decide
      rw [← Option.some_inj.mp hnext]
      exact h.positive env reply forward relayed hstatus
    · have hstatus : s.leg.call_status ≠ .Disconnected := by
        rcases hinitial.1 with heq | heq <;> rw [heq] <;> decide
      rw [← Option.some_inj.mp hnext]
      exact h.refused env reply hstatus hnew
  | callTimer timer_action timer_id timeout =>
    rw [← Option.some_inj.mp hnext]
    exact h.timers _
  | ownTimer fake_ringing timeout =>
    rw [← Option.some_inj.mp hnext]
    exact h.timers _
  | timeout timer_id =>
    unfold HuntingLeg.next at hnext
    dsimp only at hnext
    split_ifs at hnext
    rw [← Option.some_inj.mp hnext]
    exact h.timeout timer_id
  | cdr e =>
    rw [← Option.some_inj.mp hnext]
    exact h.updateCdr [e]
  | stopCall =>
    rw [← Option.some_inj.mp hnext]
    exact h.stopCall
  | onBye now =>
    rw [← Option.some_inj.mp hnext]
    exact h.onBye now
  | onOtherBye now =>
    rw [← Option.some_inj.mp hnext]
    exact h.onOtherBye now
  | onStop =>
    rw [← Option.some_inj.mp hnext]
    exact h.timers _
  | onBeforeDestroy =>
    obtain ⟨c, hctx, heq⟩ := Option.map_eq_some_iff.mp hnext
    rw [← heq]
    exact h.onBeforeDestroy hctx

end Steps

/-! ### Runs -/

theorem Inv.init {up : UriParser} {tr : CodesTranslator} {ctx : CallCtx} (h : Routed up tr ctx)
    (start_time : Nat) (allow_1xx_without_to_tag : Bool) :
    Inv ({ sbc := { call_ctx := some (.ofCallCtx ctx start_time) }
           leg := { allow_1xx_without_to_tag } } : HuntingLeg T) := by
  obtain ⟨⟨p, hp, hbill⟩, hunwritten, hposted⟩ := h.billed
  have hbilled : (RefusalCtx.ofCallCtx ctx start_time).Billed :=
    ⟨⟨p, hp, hbill⟩, hunwritten, hposted⟩
  refine ⟨List.not_mem_nil, List.nodup_nil, fun tag htag => absurd htag List.not_mem_nil,
    .nil, fun _ => ⟨rfl, rfl⟩, ?_, ?_, nofun⟩
  · intro c hctx
    obtain rfl := Option.some_inj.mp hctx
    exact ⟨RefusalCtx.getCurrentProfile_lt hp, fun d hd => absurd hd List.not_mem_nil⟩
  · intro _
    exact ⟨_, rfl, hbilled, List.nil_sublist _⟩

variable [IntCast T] {up : UriParser} {tr : CodesTranslator}

/-- The invariant holds in every run. -/
theorem inv_of_reachable (h : (system T up tr).Reachable s) : s.Inv := by
  refine System.invariant_under Inv ?_ ?_ h
  · rintro _ ⟨ctx, start_time, allow_1xx_without_to_tag, hrouted, rfl⟩
    exact .init hrouted start_time allow_1xx_without_to_tag
  · intro s l s' hinv _ hnext
    exact hinv.next hnext

/-- Different positions of a list are at most as many as its elements. -/
theorem length_le_of_ascending {ls : List DialledLeg} {n : Nat}
    (hascending : ls.Pairwise fun d d' => d.position < d'.position)
    (hbound : ∀ d ∈ ls, d.position < n) : ls.length ≤ n := by
  have hnodup : (ls.map (·.position)).Nodup :=
    List.pairwise_map.mpr (hascending.imp fun hlt => Nat.ne_of_lt hlt)
  have hsubset : ls.map (·.position) ⊆ List.range n := by
    intro i hi
    obtain ⟨d, hd, rfl⟩ := List.mem_map.mp hi
    exact List.mem_range.mpr (hbound d hd)
  have hle := (List.subperm_of_subset hnodup hsubset).length_le
  rwa [List.length_map, List.length_range] at hle

end HuntingLeg

end Yeti.Call
