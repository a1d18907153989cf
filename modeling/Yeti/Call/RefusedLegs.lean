import Yeti.Call.NextProfile

/-! # A refused leg and the next one

    `b2bInitialErr` with the hook `onBLegRefused`: the refused leg is removed, and either
    no leg is dialled or one, for a later profile.  The timers and the CDRs follow.
-/

namespace Yeti.Call

/-! ### Legs -/

namespace CallLeg

variable {leg : CallLeg} {tag : String}

theorem mem_of_mem_stopCall (h : tag ∈ leg.stopCall.other_legs) : tag ∈ leg.other_legs := by
  unfold stopCall terminateOtherLeg sendTerminate terminateNotConnectedLegs clear_other
    removeOtherLeg at h
  dsimp only at h
  split_ifs at h <;> simp_all

theorem stopCall_ended (leg : CallLeg) :
    leg.stopCall.call_status = .Disconnected ∧ leg.stopCall.stopped = true := ⟨rfl, rfl⟩

theorem mem_of_mem_removeOtherLeg {id : String} (h : tag ∈ (leg.removeOtherLeg id).other_legs) :
    tag ∈ leg.other_legs :=
  (List.mem_filter.mp h).1

theorem setOther_legs {id : String} {leg' : CallLeg} (h : leg.setOther id = some leg') :
    leg'.other_legs = leg.other_legs := by
  unfold setOther at h
  split_ifs at h
  · rw [← Option.some_inj.mp h]
  · rw [← Option.some_inj.mp h]

theorem mem_of_mem_onPositiveReply {reply : AmSipReply} {forward relayed : Bool}
    (h : tag ∈ (leg.onPositiveReply reply forward relayed).other_legs) :
    tag ∈ leg.other_legs := by
  unfold onPositiveReply b2bInitial1xx b2bInitial2xx at h
  cases hother : leg.setOther reply.from_tag with
  | none =>
    rw [hother] at h
    dsimp only at h
    split_ifs at h <;> first | exact h | exact mem_of_mem_stopCall h
  | some leg' =>
    have hlegs := setOther_legs hother
    rw [hother] at h
    dsimp only at h
    split_ifs at h
    · exact h
    · exact h
    · exact hlegs ▸ mem_of_mem_stopCall h
    · exact hlegs ▸ h
    · exact mem_of_mem_stopCall h
    · exact h
    · exact h
    · exact absurd (mem_of_mem_stopCall h) List.not_mem_nil
    · exact absurd h List.not_mem_nil

theorem mem_addNewCallee {id : String} (h : tag ∈ (leg.addNewCallee id).other_legs) :
    tag ∈ leg.other_legs ∨ tag = id := by
  unfold addNewCallee at h
  dsimp only at h
  split_ifs at h
  · exact .inl h
  · rcases List.mem_append.mp h with h | h
    · exact .inl h
    · exact .inr (List.mem_singleton.mp h)

theorem addNewCallee_mem (leg : CallLeg) (tag : String) :
    tag ∈ (leg.addNewCallee tag).other_legs := by
  unfold addNewCallee
  dsimp only
  split_ifs with h
  · exact h
  · exact List.mem_append_right _ (List.mem_singleton.mpr rfl)

/-- The leg that `onBLegRefused` is called on. -/
def refusedBase (leg : CallLeg) (from_tag : String) : CallLeg :=
  if leg.call_status = .Ringing ∧ leg.other_id ≠ from_tag then leg.removeOtherLeg from_tag
  else { leg.removeOtherLeg from_tag with call_status := .NoReply }

/-- What `b2bInitialErr` makes of the leg that its hook leaves. -/
inductive AfterHook (hooked after : CallLeg) : Prop
  | same (h : after = hooked)
  /-- Other legs may still answer. -/
  | waits (hlegs : hooked.other_legs ≠ []) (h : after = { hooked with sip_relay_only := false })
  | ends (hlegs : hooked.other_legs = []) (h : after =
      { ({ hooked with sip_relay_only := false } : CallLeg) with
        call_status := .Disconnected }.stopCall)

theorem b2bInitialErr_afterHook {σ : Type} (hook : RefusedHook σ) (leg : CallLeg) (s : σ)
    (reply : AmSipReply) :
    (b2bInitialErr hook leg s reply).2 = (hook (leg.refusedBase reply.from_tag) s reply).1.2 ∧
      AfterHook (hook (leg.refusedBase reply.from_tag) s reply).1.1
        (b2bInitialErr hook leg s reply).1 := by
  unfold b2bInitialErr refusedBase
  by_cases hringing : leg.call_status = .Ringing ∧ leg.other_id ≠ reply.from_tag
  · rw [if_pos hringing, if_pos hringing]
    exact ⟨rfl, .same rfl⟩
  · rw [if_neg hringing, if_neg hringing]
    rcases hook { leg.removeOtherLeg reply.from_tag with call_status := .NoReply } s reply with
      ⟨⟨leg', s'⟩, thrown⟩
    cases thrown with
    | true => exact ⟨rfl, .same rfl⟩
    | false =>
      dsimp only
      by_cases hlegs : leg'.other_legs = []
      · rw [if_neg (by simp [hlegs])]
        exact ⟨rfl, .ends hlegs rfl⟩
      · rw [if_pos hlegs]
        exact ⟨rfl, .waits hlegs rfl⟩

theorem AfterHook.mem {hooked after : CallLeg} (h : AfterHook hooked after)
    (hmem : tag ∈ after.other_legs) : tag ∈ hooked.other_legs := by
  cases h with
  | same heq => exact heq ▸ hmem
  | waits _ heq =>
    rw [heq] at hmem
    exact hmem
  | ends _ heq =>
    rw [heq] at hmem
    have hlegs := mem_of_mem_stopCall hmem
    exact hlegs

/-- The leg waits for the legs that the hook leaves. -/
theorem AfterHook.waiting {hooked after : CallLeg} (h : AfterHook hooked after)
    (hlegs : hooked.other_legs ≠ []) :
    after.other_legs = hooked.other_legs ∧ after.other_id = hooked.other_id ∧
      after.call_status = hooked.call_status ∧ after.stopped = hooked.stopped := by
  cases h with
  | same heq => exact heq ▸ ⟨rfl, rfl, rfl, rfl⟩
  | waits _ heq => exact heq ▸ ⟨rfl, rfl, rfl, rfl⟩
  | ends hnone _ => exact absurd hnone hlegs

theorem mem_of_mem_refusedBase {from_tag : String}
    (h : tag ∈ (leg.refusedBase from_tag).other_legs) : tag ∈ leg.other_legs := by
  unfold refusedBase at h
  split_ifs at h
  · exact mem_of_mem_removeOtherLeg h
  · have hremoved : tag ∈ (leg.removeOtherLeg from_tag).other_legs := h
    exact mem_of_mem_removeOtherLeg hremoved

end CallLeg

/-! ### The hook -/

namespace SbcState

open RefusalCtx

variable (env : RefusalEnv) (leg : CallLeg) {s : SbcState} {c : RefusalCtx} (reply : AmSipReply)

/-- What `onBLegRefused` does for a call with a context. -/
inductive Hooked (env : RefusalEnv) (leg : CallLeg) (s : SbcState) (c : RefusalCtx)
    (reply : AmSipReply) (r : (CallLeg × SbcState) × Bool) : Prop
  /-- No leg is dialled. -/
  | keeps {c' : RefusalCtx} (hctx : r.1.2.call_ctx = some c') (hbilled : c'.Billed)
      (hlater : c.Later c') (hbills : c.bills.Sublist c'.bills) (hleg : r.1.1 = leg)
  /-- The next leg is dialled for a later profile. -/
  | dials {c' : RefusalCtx} {tag : String} {profile : SqlCallProfile}
      (hctx : r.1.2.call_ctx = some c') (hbilled : c'.Billed) (hlater : c.Later c')
      (hlt : c.current_profile < c'.current_profile)
      (hbills : c.bills.Sublist (c'.written.map Cdr.bill))
      (hprofile : c'.getCurrentProfile = some profile)
      (htag : env.connectCalleeRequest profile = .callee tag)
      (hleg : r.1.1 = leg.addNewCallee tag) (hthrown : r.2 = false)
      (htimers : ∀ {T : Type} [IntCast T] (timers : CallTimers T),
        refusedTimers env leg s reply timers =
          ((timers.removeTimer YETI_FAKE_RINGING_TIMER).clearCallTimer
            YETI_CALL_DURATION_TIMER).saveTimeLimit profile.time_limit)

theorem put_ctx (s : SbcState) (handler : String) : (s.put handler).call_ctx = s.call_ctx := by
  unfold put
  split_ifs <;> rfl

/-- An exception while the next leg is dialled is recorded in the CDR. -/
theorem dial_hooked {env : RefusalEnv} {leg : CallLeg} {reply : AmSipReply} {s' : SbcState} {c' : RefusalCtx} {profile : SqlCallProfile}
    (hctx : s'.call_ctx = some c') (hbilled : c'.Billed) (hlater : c.Later c')
    (hlt : c.current_profile < c'.current_profile)
    (hbills : c.bills.Sublist c'.bills) (hwritten : c.bills.Sublist (c'.written.map Cdr.bill))
    (hprofile : c'.getCurrentProfile = some profile)
    (htimers : ∀ {T : Type} [IntCast T] (timers : CallTimers T),
      refusedTimers env leg s reply timers =
        ((timers.removeTimer YETI_FAKE_RINGING_TIMER).clearCallTimer
          YETI_CALL_DURATION_TIMER).saveTimeLimit profile.time_limit) :
    Hooked env leg s c reply (dial env leg s' profile) := by
  unfold dial
  cases hconnect : env.connectCalleeRequest profile with
  | callee tag =>
    exact .dials hctx hbilled hlater hlt hwritten hprofile hconnect rfl rfl htimers
  | exception => exact .keeps hctx hbilled hlater hbills rfl
  | internalException internal_reason internal_code =>
    have hsame : c'.cdr.toCdr.Same (c'.cdr.update_internal_reason .DisconnectByTS internal_reason
        internal_code env.now).toCdr := Cdr.Same.timed_update_internal_reason _ _ _ _ _
    have hkept := bills_record c' hsame
    refine .keeps ?_ (hbilled.record hsame) ⟨hlater.length, hlater.le, hlater.writes⟩
      (hkept ▸ hbills) rfl
    show s'.call_ctx.map _ = _
    rw [hctx]
    rfl

/-- **The hook**: it keeps the leg or dials the next one for a later profile, and the CDRs
    follow. -/
theorem onBLegRefused_hooked (hctx : s.call_ctx = some c) (h : c.Billed) :
    Hooked env leg s c reply (onBLegRefused env leg s reply) := by
  have hself : Hooked env leg s c reply ((leg, s), false) :=
    .keeps hctx h (.refl c) (List.Sublist.refl _) rfl
  unfold onBLegRefused
  split_ifs with hpeer
  · exact hself
  simp only [hctx]
  -- from here on the refusal is recorded
  have hsame := Cdr.Same.recordRefusal env c reply
  have hbilled := h.record hsame
  have hkept := bills_record c hsame
  have hlater : c.Later { c with cdr := recordRefusal env c reply } :=
    ⟨rfl, Nat.le_refl _, .refl _⟩
  have htimers {T : Type} [IntCast T] (timers : CallTimers T) (profile : SqlCallProfile)
      (hprofile : huntedProfile env
        { s with call_ctx := some { c with cdr := recordRefusal env c reply } }
        { c with cdr := recordRefusal env c reply } reply = some profile) :
      refusedTimers env leg s reply timers =
        ((timers.removeTimer YETI_FAKE_RINGING_TIMER).clearCallTimer
          YETI_CALL_DURATION_TIMER).saveTimeLimit profile.time_limit := by
    unfold refusedTimers
    rw [if_neg hpeer]
    simp only [hctx, hprofile]
  generalize { c with cdr := recordRefusal env c reply } = c₀ at *
  have hkeeps (s' : SbcState) (hs' : s'.call_ctx = some c₀) :
      Hooked env leg s c reply ((leg, s'), false) :=
    .keeps hs' hbilled hlater (hkept ▸ List.Sublist.refl _) rfl
  unfold hunt
  by_cases hstop : env.tables.stop_hunting reply.code
      ((c₀.getCurrentProfile.map env.bleg_override_id).getD 0) = true
  · rw [if_pos hstop]
    exact hkeeps _ rfl
  rw [if_neg hstop]
  cases hcurrent : c₀.getCurrentProfile with
  | none => exact hkeeps _ rfl
  | some profile =>
    dsimp only
    by_cases hinvite : c₀.initial_invite = false
    · rw [if_pos hinvite]
      exact hkeeps _ (put_ctx _ _)
    rw [if_neg hinvite]
    -- the next profile is looked for
    obtain ⟨c', hfinds, hbills, hmoved⟩ := finds_chooseNextProfile env
      (({ s with call_ctx := some c₀ } : SbcState).put profile.resource_handler) hbilled
    rw [hkept] at hbills hmoved
    have hlater' := hlater.trans hfinds.later
    split
    next s' heq =>
      rw [heq] at hfinds
      exact .keeps hfinds.ctx hfinds.billed hlater' hbills rfl
    next s' next heq =>
      rw [heq] at hfinds hmoved
      obtain ⟨hlt, hwritten⟩ := hmoved nofun
      have hhunted : huntedProfile env { s with call_ctx := some c₀ } c₀ reply = some next := by
        unfold huntedProfile
        rw [if_neg hstop, hcurrent]
        dsimp only
        rw [if_neg hinvite, heq]
      exact dial_hooked hfinds.ctx hfinds.billed hlater'
        (Nat.lt_of_le_of_lt hlater.le hlt) hbills hwritten (hfinds.found next rfl)
        (fun timers => htimers timers next hhunted)

/-- Without a context the hook does nothing. -/
theorem onBLegRefused_none (hctx : s.call_ctx = none) :
    onBLegRefused env leg s reply = ((leg, s), false) := by
  unfold onBLegRefused
  split_ifs
  · rfl
  · simp only [hctx]

end SbcState

/-! ### A refused leg as a step -/

namespace HuntingLeg

variable {T : Type} {s : HuntingLeg T}

/-- Noting a leg that is not among the B legs changes nothing. -/
theorem noteDialled_absent {tag : String} (h : tag ∉ s.leg.other_legs) :
    s.noteDialled tag = s := by
  unfold noteDialled
  split
  · rfl
  split
  · rfl
  · rw [if_neg h]

theorem noteDialled_present {c : RefusalCtx} {profile : SqlCallProfile} {tag : String}
    (hctx : s.sbc.call_ctx = some c) (hprofile : c.getCurrentProfile = some profile)
    (h : tag ∈ s.leg.other_legs) :
    s.noteDialled tag =
      { s with dialled := s.dialled ++ [⟨tag, c.current_profile, profile⟩] } := by
  unfold noteDialled
  simp only [hctx, hprofile, if_pos h]

/-- What a refused leg makes of a call with the context `c`. -/
inductive Refused (s : HuntingLeg T) (c : RefusalCtx) [IntCast T] (reply : AmSipReply)
    (s' : HuntingLeg T) : Prop
  | keeps {c' : RefusalCtx} {leg' : CallLeg} {sbc' : SbcState} {timers' : CallTimers T}
      (heq : s' = { s with leg := leg', sbc := sbc', timers := timers' })
      (hctx : sbc'.call_ctx = some c') (hbilled : c'.Billed) (hlater : c.Later c')
      (hbills : c.bills.Sublist c'.bills)
      (hleg : CallLeg.AfterHook (s.leg.refusedBase reply.from_tag) leg')
  | dials {c' : RefusalCtx} {leg' : CallLeg} {sbc' : SbcState} {tag : String}
      {profile : SqlCallProfile}
      (heq : s' = { s with
        leg := leg'
        sbc := sbc'
        timers := ((s.timers.removeTimer YETI_FAKE_RINGING_TIMER).clearCallTimer
          YETI_CALL_DURATION_TIMER).saveTimeLimit profile.time_limit
        dialled := s.dialled ++ [⟨tag, c'.current_profile, profile⟩] })
      (hctx : sbc'.call_ctx = some c') (hbilled : c'.Billed) (hlater : c.Later c')
      (hlt : c.current_profile < c'.current_profile)
      (hbills : c.bills.Sublist (c'.written.map Cdr.bill))
      (hprofile : c'.getCurrentProfile = some profile) (hnew : s.newTag tag = true)
      (hleg : CallLeg.AfterHook ((s.leg.refusedBase reply.from_tag).addNewCallee tag) leg')

variable [IntCast T] {c : RefusalCtx}

/-- **A refused leg**: the call goes on with the legs it has, or with one more. -/
theorem refused_cases (hctx : s.sbc.call_ctx = some c) (hbilled : c.Billed)
    (hlegs : ∀ tag ∈ s.leg.other_legs, tag ∈ s.tags) (env : RefusalEnv) (reply : AmSipReply)
    {connect : ConnectResult} (hnew : s.newLeg connect = true) :
    s.Refused c reply (s.refused env reply connect) := by
  obtain ⟨env', henv⟩ : ∃ env' : RefusalEnv,
      env' = { env with connectCalleeRequest := fun _ => connect } := ⟨_, rfl⟩
  have hhook := SbcState.onBLegRefused_hooked env' (s.leg.refusedBase reply.from_tag) reply hctx
    hbilled
  obtain ⟨hsbc, hafter⟩ :=
    CallLeg.b2bInitialErr_afterHook (SbcState.onBLegRefused env') s.leg s.sbc reply
  have hnegative : s.negative env' reply = { s with
      leg := (CallLeg.b2bInitialErr (SbcState.onBLegRefused env') s.leg s.sbc reply).1
      sbc := (CallLeg.b2bInitialErr (SbcState.onBLegRefused env') s.leg s.sbc reply).2
      timers := SbcState.refusedTimers env' (s.leg.refusedBase reply.from_tag) s.sbc reply
        s.timers } := rfl
  unfold refused
  rw [← henv]
  cases hhook with
  | keeps hctx' hbilled' hlater hbills hleg =>
    rw [hleg] at hafter
    rw [← hsbc] at hctx'
    cases connect with
    | exception => exact .keeps hnegative hctx' hbilled' hlater hbills hafter
    | internalException _ _ => exact .keeps hnegative hctx' hbilled' hlater hbills hafter
    | callee tag =>
      -- the tag is that of no leg
      have habsent : tag ∉ (s.negative env' reply).leg.other_legs := by
        intro hmem
        obtain ⟨-, hfresh⟩ : tag ≠ "" ∧ tag ∉ s.tags := by simpa [newLeg, newTag] using hnew
        exact hfresh (hlegs tag (CallLeg.mem_of_mem_refusedBase (hafter.mem hmem)))
      exact .keeps ((noteDialled_absent habsent).trans hnegative) hctx' hbilled' hlater hbills
        hafter
  | dials hctx' hbilled' hlater hlt hbills hprofile htag hleg hthrown htimers =>
    rw [henv] at htag
    cases connect with
    | exception => cases htag
    | internalException _ _ => cases htag
    | callee tag =>
      obtain rfl := ConnectResult.callee.inj htag
      rw [hleg] at hafter
      rw [← hsbc] at hctx'
      have hcallee := CallLeg.addNewCallee_mem (s.leg.refusedBase reply.from_tag) tag
      have hmem : tag ∈ (s.negative env' reply).leg.other_legs := by
        rw [hnegative]
        rw [(hafter.waiting (List.ne_nil_of_mem hcallee)).1]
        exact hcallee
      refine .dials ?_ hctx' hbilled' hlater hlt hbills hprofile hnew hafter
      rw [← htimers s.timers]
      exact noteDialled_present hctx' hprofile hmem

/-- Without a context only the refused leg goes. -/
theorem refused_none (hctx : s.sbc.call_ctx = none) (env : RefusalEnv) (reply : AmSipReply)
    (connect : ConnectResult) :
    ∃ leg' timers', s.refused env reply connect = { s with leg := leg', timers := timers' } ∧
      CallLeg.AfterHook (s.leg.refusedBase reply.from_tag) leg' := by
  obtain ⟨env', henv⟩ : ∃ env' : RefusalEnv,
      env' = { env with connectCalleeRequest := fun _ => connect } := ⟨_, rfl⟩
  obtain ⟨hsbc, hafter⟩ :=
    CallLeg.b2bInitialErr_afterHook (SbcState.onBLegRefused env') s.leg s.sbc reply
  rw [SbcState.onBLegRefused_none env' _ reply hctx] at hsbc hafter
  have hnegative : s.negative env' reply = { s with
      leg := (CallLeg.b2bInitialErr (SbcState.onBLegRefused env') s.leg s.sbc reply).1
      timers := SbcState.refusedTimers env' (s.leg.refusedBase reply.from_tag) s.sbc reply
        s.timers } := by
    unfold negative
    dsimp only
    rw [hsbc]
    rfl
  suffices hrefused : s.refused env reply connect = s.negative env' reply from
    ⟨_, _, hrefused.trans hnegative, hafter⟩
  unfold refused
  rw [← henv]
  cases connect with
  | exception => rfl
  | internalException _ _ => rfl
  | callee tag =>
    have hnone : (s.negative env' reply).sbc.call_ctx = none := by
      rw [hnegative]
      exact hctx
    show (s.negative env' reply).noteDialled tag = s.negative env' reply
    unfold noteDialled
    rw [hnone]

end HuntingLeg

end Yeti.Call
