import Yeti.Call.Billing

/-! # The profile of a connected call

    A call that gets connected is billed and limited by the profile whose leg has answered.
    This holds in every run in which no leg that was given up refuses again before the
    next one rings, and in which nobody else sets the duration timer.
-/

open LTS

namespace Yeti.Call

namespace CallTimers

variable {T : Type} {t : CallTimers T}

/-- The duration timer that a time limit asks for. -/
def limit [IntCast T] (time_limit : Int) : Option T :=
  if time_limit ≠ 0 then some (time_limit : T) else none

@[simp] theorem setTimer_call_timers (timer : Int) (timeout : T) :
    (t.setTimer timer timeout).call_timers = t.call_timers := rfl

@[simp] theorem removeTimer_call_timers (timer : Int) :
    (t.removeTimer timer).call_timers = t.call_timers := rfl

/-- Other timers than the duration timer do not matter. -/
theorem onCallTimerEvent_ne {timer_id id : Int} (hne : id ≠ timer_id) (timer_action : TimerAction)
    (timeout : T) :
    (t.onCallTimerEvent timer_action timer_id timeout).call_timers id = t.call_timers id ∧
      (t.onCallTimerEvent timer_action timer_id timeout).running id = t.running id := by
  unfold onCallTimerEvent setTimer removeTimer saveCallTimer clearCallTimer
  cases t.m_state <;> cases timer_action <;> simp [Function.update_of_ne hne]

theorem onCallTimerEvent_m_state (timer_action : TimerAction) (timer_id : Int) (timeout : T) :
    (t.onCallTimerEvent timer_action timer_id timeout).m_state = t.m_state := by
  unfold onCallTimerEvent
  cases hstate : t.m_state <;> cases timer_action <;> exact hstate

theorem saveTimeLimit_call_timers [IntCast T] (hnone : t.call_timers YETI_CALL_DURATION_TIMER = none)
    (time_limit : Int) :
    (t.saveTimeLimit time_limit).call_timers YETI_CALL_DURATION_TIMER = limit time_limit ∧
      (t.saveTimeLimit time_limit).running = t.running := by
  unfold saveTimeLimit limit saveCallTimer
  split_ifs
  · refine ⟨?_, rfl⟩
    dsimp only
    rw [Function.update_self]
  · exact ⟨hnone, rfl⟩

end CallTimers

namespace HuntingLeg

variable {T : Type} [IntCast T] {s : HuntingLeg T}

/-! ### The condition -/

/-- While no leg has rung, a negative reply comes from a leg that was not given up; and
    events for other timers only. -/
def Known (s : HuntingLeg T) : Label T → Prop
  | .reply _ reply _ _ _ =>
    300 ≤ reply.code → s.leg.other_id = "" → reply.from_tag ∈ s.leg.other_legs
  | .callTimer _ timer_id _ => timer_id ≠ YETI_CALL_DURATION_TIMER
  | _ => True

instance (s : HuntingLeg T) : (l : Label T) → Decidable (s.Known l)
  | .reply _ _ _ _ _ => inferInstanceAs (Decidable (_ → _ → _))
  | .callTimer _ _ _ => inferInstanceAs (Decidable (_ ≠ _))
  | .processResourcesAndSdp _ _ => .isTrue trivial
  | .ownTimer _ _ => .isTrue trivial
  | .timeout _ => .isTrue trivial
  | .cdr _ => .isTrue trivial
  | .stopCall => .isTrue trivial
  | .onBye _ => .isTrue trivial
  | .onOtherBye _ => .isTrue trivial
  | .onStop => .isTrue trivial
  | .onBeforeDestroy => .isTrue trivial

/-! ### The invariant -/

/-- `d` was dialled last, for the profile in use. -/
structure Dials (s : HuntingLeg T) (d : DialledLeg) : Prop where
  last : s.dialled.getLast? = some d
  current : ∀ c, s.sbc.call_ctx = some c →
    d.position = c.current_profile ∧ c.getCurrentProfile = some d.profile

/-- The time limit of the profile is noted. -/
def Limits (s : HuntingLeg T) (time_limit : Option T) : Prop :=
  s.timers.call_timers YETI_CALL_DURATION_TIMER = time_limit ∧
    s.timers.running YETI_CALL_DURATION_TIMER = none

/-- The A leg has one B leg at most. -/
structure Serial (s : HuntingLeg T) : Prop where
  unprocessed : s.processed = false → s.leg.other_id = "" ∧ s.Limits none
  noReply : s.leg.call_status = .NoReply → s.leg.other_id = ""
  ringing : s.leg.call_status = .Ringing → s.leg.other_id ≠ "" ∧ s.leg.other_legs = [s.leg.other_id]
  waits : s.leg.call_status = .NoReply ∨ s.leg.call_status = .Ringing →
    s.leg.other_legs = [] ∨ ∃ d, s.Dials d ∧ s.leg.other_legs = [d.tag] ∧
      s.Limits (CallTimers.limit d.profile.time_limit)
  connected : s.leg.call_status = .Connected → ∃ d, s.Dials d ∧ s.leg.other_id = d.tag ∧
    (s.timers.m_state = .BB_Connected →
      s.timers.running YETI_CALL_DURATION_TIMER = CallTimers.limit d.profile.time_limit)

/-! ### Steps that end the call -/

/-- Of a call that is over nothing is promised. -/
theorem Serial.ended {leg : CallLeg} {sbc : SbcState} {timers : CallTimers T}
    {processed cdr_posted : Bool} {dialled : List DialledLeg} {posted : List Cdr} (hstatus : leg.call_status = .Disconnected)
    (hunprocessed : processed = false → leg.other_id = "" ∧
      timers.call_timers YETI_CALL_DURATION_TIMER = none ∧
        timers.running YETI_CALL_DURATION_TIMER = none) :
    Serial ⟨leg, sbc, timers, processed, dialled, cdr_posted, posted⟩ where
  unprocessed := hunprocessed
  noReply h := by simp [hstatus] at h
  ringing h := by simp [hstatus] at h
  waits h := by simp [hstatus] at h
  connected h := by simp [hstatus] at h

/-- A leg that talks to the leg that was dialled last. -/
theorem Serial.connect (hunprocessed : s.processed = false → s.leg.other_id = "" ∧ s.Limits none)
    (hstatus : s.leg.call_status = .Connected) {d : DialledLeg} (hd : s.Dials d)
    (hother : s.leg.other_id = d.tag) (hlimit : s.timers.m_state = .BB_Connected →
      s.timers.running YETI_CALL_DURATION_TIMER = CallTimers.limit d.profile.time_limit) :
    s.Serial where
  unprocessed := hunprocessed
  noReply h := by simp [hstatus] at h
  ringing h := by simp [hstatus] at h
  waits h := by simp [hstatus] at h
  connected _ := ⟨d, hd, hother, hlimit⟩

/-- The timers change, but not the duration timer. -/
theorem Serial.timers (h : s.Serial) {timers : CallTimers T}
    (hcall : timers.call_timers YETI_CALL_DURATION_TIMER =
      s.timers.call_timers YETI_CALL_DURATION_TIMER)
    (hrunning : timers.m_state = .BB_Connected →
      s.timers.m_state = .BB_Connected ∧ timers.running YETI_CALL_DURATION_TIMER =
        s.timers.running YETI_CALL_DURATION_TIMER)
    (hnone : s.timers.running YETI_CALL_DURATION_TIMER = none →
      timers.running YETI_CALL_DURATION_TIMER = none) :
    Serial { s with timers := timers } := by
  have hlimits {time_limit : Option T} (hl : s.Limits time_limit) :
      Limits { s with timers := timers } time_limit := ⟨hcall.trans hl.1, hnone hl.2⟩
  refine ⟨fun hfalse => ?_, h.noReply, h.ringing, fun hwaits => ?_, fun hconnected => ?_⟩
  · obtain ⟨hother, hl⟩ := h.unprocessed hfalse
    exact ⟨hother, hlimits hl⟩
  · refine (h.waits hwaits).imp_right ?_
    rintro ⟨d, hd, hlegs, hl⟩
    exact ⟨d, ⟨hd.last, hd.current⟩, hlegs, hlimits hl⟩
  · obtain ⟨d, hd, hother, hl⟩ := h.connected hconnected
    refine ⟨d, ⟨hd.last, hd.current⟩, hother, fun hstate => ?_⟩
    obtain ⟨hstate', heq⟩ := hrunning hstate
    exact heq.trans (hl hstate')

/-- The context changes, but not the profile in use; or it is deleted. -/
theorem Serial.sbc (h : s.Serial) {sbc : SbcState}
    (hctx : ∀ c', sbc.call_ctx = some c' → ∃ c, s.sbc.call_ctx = some c ∧
      c'.current_profile = c.current_profile ∧ c'.getCurrentProfile = c.getCurrentProfile)
    (cdr_posted : Bool) (posted : List Cdr) :
    Serial { s with sbc := sbc, cdr_posted := cdr_posted, posted := posted } := by
  have hdials {d : DialledLeg} (hd : s.Dials d) :
      Dials { s with sbc := sbc, cdr_posted := cdr_posted, posted := posted } d := by
    refine ⟨hd.last, fun c' hc' => ?_⟩
    obtain ⟨c, hc, hposition, hprofile⟩ := hctx c' hc'
    rw [hposition, hprofile]
    exact hd.current c hc
  refine ⟨h.unprocessed, h.noReply, h.ringing, fun hwaits => ?_, fun hconnected => ?_⟩
  · refine (h.waits hwaits).imp_right ?_
    rintro ⟨d, hd, hlegs, hl⟩
    exact ⟨d, hdials hd, hlegs, hl⟩
  · obtain ⟨d, hd, hother, hl⟩ := h.connected hconnected
    exact ⟨d, hdials hd, hother, hl⟩

theorem Serial.updateCdr (h : s.Serial) (es : List CdrEvent) : (s.updateCdr es).Serial := by
  refine h.sbc (fun c' hc' => ?_) s.cdr_posted s.posted
  obtain ⟨c, hc, rfl⟩ := Option.map_eq_some_iff.mp hc'
  refine ⟨c, hc, ?_⟩
  split_ifs
  · exact ⟨rfl, rfl⟩
  · exact ⟨rfl, rfl⟩

theorem stopCall_other_id (leg : CallLeg) : leg.stopCall.other_id = "" := by
  unfold CallLeg.stopCall CallLeg.terminateOtherLeg CallLeg.sendTerminate CallLeg.clear_other
  dsimp only
  split_ifs <;> rfl

theorem Serial.stopCall (h : s.Serial) : s.stopCall.Serial :=
  .ended rfl (fun hfalse => ⟨stopCall_other_id s.leg, (h.unprocessed hfalse).2⟩)

theorem Serial.onBye (h : s.Serial) (now : Nat) : (s.onBye now).Serial := by
  unfold HuntingLeg.onBye
  split_ifs
  · exact h
  all_goals exact .ended rfl h.unprocessed

theorem Serial.onOtherBye (h : s.Serial) (now : Nat) : (s.onOtherBye now).Serial := by
  unfold HuntingLeg.onOtherBye
  dsimp only
  split_ifs <;> exact .ended rfl h.unprocessed

theorem Serial.terminateLeg (h : s.Serial) : s.terminateLeg.Serial := by
  refine ⟨h.unprocessed, h.noReply, h.ringing, fun hwaits => ?_, fun hconnected => ?_⟩
  · refine (h.waits hwaits).imp_right ?_
    rintro ⟨d, hd, hlegs, hl⟩
    exact ⟨d, ⟨hd.last, hd.current⟩, hlegs, hl⟩
  · obtain ⟨d, hd, hother, hl⟩ := h.connected hconnected
    exact ⟨d, ⟨hd.last, hd.current⟩, hother, hl⟩

theorem Serial.timeout (h : s.Serial) {timer_id : Int}
    (hruns : (s.timers.running timer_id).isSome = true) : (s.timeout timer_id).Serial := by
  unfold HuntingLeg.timeout
  by_cases hduration : timer_id = YETI_CALL_DURATION_TIMER
  · -- the duration timer stops the call
    have hunprocessed : s.processed ≠ false := by
      intro hfalse
      rw [hduration, (h.unprocessed hfalse).2.2] at hruns
      cases hruns
    have hours : timer_id ∉ [YETI_RINGING_TIMEOUT_TIMER, YETI_RADIUS_INTERIM_TIMER,
        YETI_FAKE_RINGING_TIMER] := by
      rw [hduration]
      decide
    have hcall : SBC_TIMER_ID_CALL_TIMERS_START ≤ timer_id ∧
        timer_id ≤ SBC_TIMER_ID_CALL_TIMERS_END := by
      rw [hduration]
      decide
    simp only [hours, decide_false, Bool.and_false, Bool.false_eq_true, if_false, if_pos hcall]
    exact .ended rfl (fun hfalse => absurd hfalse hunprocessed)
  · have hne : YETI_CALL_DURATION_TIMER ≠ timer_id := fun heq => hduration heq.symm
    have hrunning : (s.timers.removeTimer timer_id).running YETI_CALL_DURATION_TIMER =
        s.timers.running YETI_CALL_DURATION_TIMER := Function.update_of_ne hne _ _
    have htimers : Serial { s with timers := s.timers.removeTimer timer_id } :=
      h.timers rfl (fun hstate => ⟨hstate, hrunning⟩) (fun hnone => hrunning.trans hnone)
    dsimp only
    split_ifs
    · exact htimers
    · exact htimers.stopCall
    · exact htimers

/-! ### Replies -/

/-- The first leg is dialled. -/
theorem Serial.route (hinv : s.Inv) (hnone : s.dialled = [])
    (hunlimited : s.leg.other_id = "" ∧ s.Limits none)
    (hstatus : s.leg.call_status = .Disconnected)
    (hprocessed : s.processed = true) {c : RefusalCtx} {profile : SqlCallProfile}
    (hctx : s.sbc.call_ctx = some c) (hprofile : c.getCurrentProfile = some profile)
    (env : RoutingEnv) (result : RoutingResult) : (s.route env profile result).Serial := by
  have hover {leg : CallLeg} {sbc : SbcState} {timers : CallTimers T}
      (hleg : leg.call_status = .Disconnected) :
      Serial { s with leg := leg, sbc := sbc, timers := timers } := by
    refine .ended hleg (fun hfalse => ?_)
    rw [hprocessed] at hfalse
    cases hfalse
  cases result with
  | sdpException reason code => exact hover hstatus
  | exception dialing reason code => exact hover hstatus
  | callee tag =>
    have hempty : s.leg.other_legs = [] := by
      rw [List.eq_nil_iff_forall_not_mem]
      intro t ht
      have hmem := hinv.legs t ht
      unfold tags at hmem
      rw [hnone] at hmem
      exact absurd hmem List.not_mem_nil
    have hnoted := noteDialled_present
      (s := { s with
        timers := { s.timers.saveTimeLimit profile.time_limit with m_state := .BB_Dialing }
        leg := s.leg.addNewCallee tag }) hctx hprofile (s.leg.addNewCallee_mem tag)
    have hlegs : (s.leg.addNewCallee tag).other_legs = [tag] := by
      unfold CallLeg.addNewCallee
      rw [hempty, if_neg List.not_mem_nil]
      rfl
    have hnoreply : (s.leg.addNewCallee tag).call_status = .NoReply := by
      unfold CallLeg.addNewCallee
      rw [hstatus]
      rfl
    obtain ⟨hlimit, hrunning⟩ :=
      CallTimers.saveTimeLimit_call_timers hunlimited.2.1 profile.time_limit
    have hdials : Dials { s with
        timers := { s.timers.saveTimeLimit profile.time_limit with m_state := .BB_Dialing }
        leg := s.leg.addNewCallee tag
        dialled := s.dialled ++ [⟨tag, c.current_profile, profile⟩] }
        ⟨tag, c.current_profile, profile⟩ := by
      refine ⟨by simp, fun c' hc' => ?_⟩
      obtain rfl : c = c' := Option.some_inj.mp (hctx.symm.trans hc')
      exact ⟨rfl, hprofile⟩
    unfold HuntingLeg.route
    dsimp only
    rw [hnoted]
    refine ⟨fun hfalse => ?_, fun _ => hunlimited.1, fun hringing => ?_, fun _ => .inr ?_,
      fun hconnected => ?_⟩
    · rw [hprocessed] at hfalse
      cases hfalse
    · rw [hnoreply] at hringing
      cases hringing
    · exact ⟨_, hdials, hlegs, hlimit, by
        show (s.timers.saveTimeLimit profile.time_limit).running _ = none
        rw [hrunning]
        exact hunlimited.2.2⟩
    · rw [hnoreply] at hconnected
      cases hconnected

theorem Serial.processResourcesAndSdp (h : s.Serial) (hinv : s.Inv) {c : RefusalCtx}
    {profile : SqlCallProfile} (hctx : s.sbc.call_ctx = some c)
    (hprofile : c.getCurrentProfile = some profile) (hunprocessed : s.processed = false)
    (hstopped : s.leg.stopped = false) (env : RoutingEnv) (result : RoutingResult) :
    (s.processResourcesAndSdp env c profile result).Serial := by
  obtain ⟨hposted, hbilled, -⟩ := hinv.going_of_waiting hctx (by simp [hstopped])
  obtain ⟨hnone, hstatus⟩ := hinv.unprocessed hunprocessed
  have hunlimited := h.unprocessed hunprocessed
  obtain ⟨c', hfinds⟩ := SbcState.finds_processLoop env c.profiles.length s.sbc hbilled hprofile
  have hbills : s.dialledBills.Sublist c'.bills := by
    unfold dialledBills
    rw [hnone]
    exact List.nil_sublist _
  have hlater := hinv.later hctx hposted hfinds.ctx hfinds.billed hfinds.later.le hbills true nofun
  unfold HuntingLeg.processResourcesAndSdp
  split
  next sbc heq => exact .ended hstatus nofun
  next sbc found heq =>
    rw [heq] at hlater hfinds
    exact .route hlater hnone hunlimited hstatus rfl hfinds.ctx (hfinds.found found rfl) env result

end HuntingLeg

/-! ### A positive reply -/

namespace CallLeg

/-- What a provisional or positive reply makes of a leg. -/
inductive Answered (leg : CallLeg) (reply : AmSipReply) (leg' : CallLeg) : Prop
  | ignored (hcode : reply.code < 200 ∨ leg.setOther reply.from_tag = none) (heq : leg' = leg)
  | rings {peer : CallLeg} (hcode : reply.code < 200) (hpeer : leg.setOther reply.from_tag = some peer)
      (heq : leg' = { peer with call_status := .Ringing })
  /-- The reply could not be relayed. -/
  | fails (hstatus : leg'.call_status = .Disconnected)
  | connects {peer : CallLeg} (hcode : 200 ≤ reply.code)
      (hpeer : leg.setOther reply.from_tag = some peer)
      (hstatus : leg'.call_status = .Connected) (hother : leg'.other_id = peer.other_id)

theorem onPositiveReply_answered (leg : CallLeg) (reply : AmSipReply) (forward relayed : Bool) :
    Answered leg reply (leg.onPositiveReply reply forward relayed) := by
  unfold onPositiveReply
  by_cases hcode : reply.code < 200
  · have hself : Answered leg reply leg := .ignored (.inl hcode) rfl
    rw [if_pos hcode]
    unfold b2bInitial1xx
    cases hpeer : leg.setOther reply.from_tag with
    | none =>
      dsimp only
      split_ifs <;> first | exact hself | exact .fails rfl
    | some peer =>
      dsimp only
      split_ifs <;> first | exact hself | exact .fails rfl | exact .rings hcode hpeer rfl
  · rw [if_neg hcode]
    unfold b2bInitial2xx
    cases hpeer : leg.setOther reply.from_tag with
    | none => exact .ignored (.inr hpeer) rfl
    | some peer =>
      dsimp only
      split_ifs
      · exact .fails rfl
      · exact .connects (Nat.le_of_not_lt hcode) hpeer rfl rfl

end CallLeg

namespace HuntingLeg

variable {T : Type} [IntCast T] {s : HuntingLeg T}

omit [IntCast T] in
/-- A reply that the leg ignores changes nothing. -/
theorem positive_ignored (env : RefusalEnv) {reply : AmSipReply} {forward relayed : Bool}
    (hcode : reply.code < 200 ∨ s.leg.setOther reply.from_tag = none)
    (heq : s.leg.onPositiveReply reply forward relayed = s.leg) :
    s.positive env reply forward relayed = s := by
  have htimers : ¬ (200 ≤ reply.code ∧ (s.leg.setOther reply.from_tag).isSome = true) := by
    rintro ⟨hle, hsome⟩
    rcases hcode with hlt | hnone
    · omega
    · rw [hnone] at hsome
      cases hsome
  unfold positive
  rw [heq, if_neg htimers]

/-- Only the leg that was dialled last can become the peer. -/
theorem Serial.peer (h : s.Serial)
    (hinitial : s.leg.call_status = .NoReply ∨ s.leg.call_status = .Ringing) {from_tag : String}
    (hfrom : from_tag ≠ "") {peer : CallLeg} (hpeer : s.leg.setOther from_tag = some peer) :
    ∃ d, s.Dials d ∧ s.Limits (CallTimers.limit d.profile.time_limit) ∧
      peer.other_legs = [d.tag] ∧ peer.other_id = d.tag ∧ from_tag = d.tag := by
  -- the reply comes from a leg that was not given up
  have hmem : from_tag ∈ s.leg.other_legs := by
    unfold CallLeg.setOther at hpeer
    split_ifs at hpeer with heq hmem
    · rcases hinitial with hnoreply | hringing
      · exact absurd (heq.symm.trans (h.noReply hnoreply)) hfrom
      · rw [(h.ringing hringing).2, heq]
        exact List.mem_singleton.mpr rfl
    · exact hmem
  rcases h.waits hinitial with hnone | ⟨d, hd, hlegs, hl⟩
  · rw [hnone] at hmem
    cases hmem
  · rw [hlegs] at hmem
    have htag := List.mem_singleton.mp hmem
    refine ⟨d, hd, hl, (CallLeg.setOther_legs hpeer).trans hlegs, ?_, htag⟩
    unfold CallLeg.setOther at hpeer
    split_ifs at hpeer with heq
    · rw [← Option.some_inj.mp hpeer, heq, htag]
    · rw [← Option.some_inj.mp hpeer]
      exact htag

theorem Serial.positive (h : s.Serial) (hinv : s.Inv)
    (hinitial : s.leg.call_status = .NoReply ∨ s.leg.call_status = .Ringing) (env : RefusalEnv)
    {reply : AmSipReply} (hfrom : reply.from_tag ≠ "") (forward relayed : Bool) :
    (s.positive env reply forward relayed).Serial := by
  have hprocessed : s.processed ≠ false := by
    intro hfalse
    rw [(hinv.unprocessed hfalse).2] at hinitial
    rcases hinitial with heq | heq <;> cases heq
  have hanswered := s.leg.onPositiveReply_answered reply forward relayed
  cases hanswered with
  | ignored hcode heq =>
    rw [positive_ignored env hcode heq]
    exact h
  | fails hstatus =>
    unfold HuntingLeg.positive HuntingLeg.onCallConnected
    split_ifs
    · exact .ended hstatus (fun hfalse => absurd hfalse hprocessed)
    · exact .ended hstatus (fun hfalse => absurd hfalse hprocessed)
  | rings hcode hpeer heq =>
    obtain ⟨d, hd, hl, hlegs, hother, htag⟩ := h.peer hinitial hfrom hpeer
    unfold HuntingLeg.positive
    rw [heq, if_neg (by omega)]
    refine ⟨fun hfalse => absurd hfalse hprocessed, fun hno => CallStatus.noConfusion hno,
      fun _ => ⟨?_, ?_⟩, fun _ => .inr ?_, fun hno => CallStatus.noConfusion hno⟩
    · exact fun hempty => hfrom (htag.trans (hother.symm.trans hempty))
    · exact hlegs.trans (congrArg (fun tag => [tag]) hother.symm)
    · exact ⟨d, ⟨hd.last, hd.current⟩, hlegs, hl⟩
  | connects hcode hpeer hstatus hother' =>
    obtain ⟨d, hd, hl, -, hother, -⟩ :=
      (h.updateCdr [.update_with_action .Connect env.now]).peer hinitial hfrom hpeer
    have hconnects : 200 ≤ reply.code ∧ (s.leg.setOther reply.from_tag).isSome = true :=
      ⟨hcode, by rw [hpeer]; rfl⟩
    unfold HuntingLeg.positive HuntingLeg.onCallConnected
    rw [if_pos hconnects]
    refine .connect (fun hfalse => absurd hfalse hprocessed) hstatus ⟨hd.last, hd.current⟩
      (hother'.trans hother) (fun _ => ?_)
    obtain ⟨hlimit, hnone⟩ : s.Limits (CallTimers.limit d.profile.time_limit) := ⟨hl.1, hl.2⟩
    show (s.timers.call_timers _).or (s.timers.running _) = _
    rw [hlimit, hnone, Option.or_none]

/-! ### A negative reply -/

/-- A leg that refuses while another one rings is only removed. -/
theorem refused_ignored (hringing : s.leg.call_status = .Ringing) (hother : s.leg.other_id ≠ "")
    (hlegs : s.leg.other_legs = [s.leg.other_id]) (hinv : s.Inv) (env : RefusalEnv)
    {reply : AmSipReply} (hfrom : s.leg.other_id ≠ reply.from_tag) {connect : ConnectResult}
    (hnew : s.newLeg connect = true) : s.refused env reply connect = s := by
  have hremoved : s.leg.removeOtherLeg reply.from_tag = s.leg := by
    unfold CallLeg.removeOtherLeg
    rw [if_neg hfrom, List.filter_eq_self.mpr (by simpa [hlegs] using hfrom)]
  have hhook (env : RefusalEnv) :
      SbcState.onBLegRefused env s.leg s.sbc reply = ((s.leg, s.sbc), false) := by
    unfold SbcState.onBLegRefused
    rw [if_pos ⟨hother, hfrom.symm⟩]
  have hnegative (env : RefusalEnv) : s.negative env reply = s := by
    have htimers : SbcState.refusedTimers env s.leg s.sbc reply s.timers = s.timers := by
      unfold SbcState.refusedTimers
      rw [if_pos ⟨hother, hfrom.symm⟩]
    unfold negative CallLeg.b2bInitialErr
    rw [if_pos ⟨hringing, hfrom⟩, if_pos ⟨hringing, hfrom⟩, hremoved, hhook]
    dsimp only
    rw [htimers]
  unfold refused
  rw [hnegative]
  cases connect with
  | exception => rfl
  | internalException _ _ => rfl
  | callee tag =>
    obtain ⟨-, hfresh⟩ : tag ≠ "" ∧ tag ∉ s.tags := by simpa [newLeg, newTag] using hnew
    exact noteDialled_absent (fun hmem => hfresh (hinv.legs tag hmem))

/-- The leg that has refused was the only one. -/
theorem Serial.refusedBase (h : s.Serial)
    (hinitial : s.leg.call_status = .NoReply ∨ s.leg.call_status = .Ringing) {from_tag : String}
    (hknown : s.leg.other_id = "" → from_tag ∈ s.leg.other_legs)
    (hpeer : s.leg.other_id ≠ "" → s.leg.other_id = from_tag) :
    (s.leg.refusedBase from_tag).other_legs = [] ∧ (s.leg.refusedBase from_tag).other_id = "" ∧
      (s.leg.refusedBase from_tag).call_status = .NoReply ∧
      s.timers.running YETI_CALL_DURATION_TIMER = none := by
  have hbase : s.leg.refusedBase from_tag =
      { s.leg.removeOtherLeg from_tag with call_status := .NoReply } := by
    unfold CallLeg.refusedBase
    refine if_neg ?_
    rintro ⟨hringing, hne⟩
    exact hne (hpeer (h.ringing hringing).1)
  have hmem : from_tag ∈ s.leg.other_legs := by
    by_cases hother : s.leg.other_id = ""
    · exact hknown hother
    · rcases hinitial with hnoreply | hringing
      · exact absurd (h.noReply hnoreply) hother
      · rw [(h.ringing hringing).2]
        exact List.mem_singleton.mpr (hpeer hother).symm
  rcases h.waits hinitial with hnone | ⟨d, -, hlegs, hl⟩
  · rw [hnone] at hmem
    cases hmem
  · rw [hlegs] at hmem
    have htag := List.mem_singleton.mp hmem
    rw [hbase]
    refine ⟨?_, ?_, rfl, hl.2⟩
    · show s.leg.other_legs.filter (· ≠ from_tag) = []
      rw [hlegs, htag]
      simp
    · show (if s.leg.other_id = from_tag then "" else s.leg.other_id) = ""
      split_ifs with heq
      · rfl
      · by_contra hother
        exact heq (hpeer hother)

/-- No other leg is dialled. -/
theorem Serial.kept {leg' : CallLeg} {base : CallLeg} (hlegs : base.other_legs = [])
    (hother : base.other_id = "") (hstatus : base.call_status = .NoReply)
    (hleg : CallLeg.AfterHook base leg') {sbc : SbcState} {timers : CallTimers T}
    (hprocessed : s.processed = true) :
    Serial { s with leg := leg', sbc := sbc, timers := timers } := by
  have hunprocessed : s.processed ≠ false := by simp [hprocessed]
  cases hleg with
  | same heq =>
    rw [heq]
    refine ⟨fun hfalse => absurd hfalse hunprocessed, fun _ => hother, fun hringing => ?_,
      fun _ => .inl hlegs, fun hconnected => ?_⟩
    · have hno := hstatus.symm.trans hringing
      cases hno
    · have hno := hstatus.symm.trans hconnected
      cases hno
  | waits hne _ => exact absurd hlegs hne
  | ends _ heq =>
    rw [heq]
    exact .ended rfl (fun hfalse => absurd hfalse hunprocessed)

theorem Serial.refused (h : s.Serial) (hinv : s.Inv)
    (hinitial : s.leg.call_status = .NoReply ∨ s.leg.call_status = .Ringing)
    (env : RefusalEnv) {reply : AmSipReply}
    (hknown : s.leg.other_id = "" → reply.from_tag ∈ s.leg.other_legs) {connect : ConnectResult}
    (hnew : s.newLeg connect = true) : (s.refused env reply connect).Serial := by
  have hprocessed : s.processed = true := by
    by_contra hfalse
    rw [(hinv.unprocessed (by simpa using hfalse)).2] at hinitial
    rcases hinitial with heq | heq <;> cases heq
  by_cases hpeer : s.leg.other_id ≠ "" ∧ s.leg.other_id ≠ reply.from_tag
  · have hringing : s.leg.call_status = .Ringing := by
      rcases hinitial with hnoreply | hringing
      · exact absurd (h.noReply hnoreply) hpeer.1
      · exact hringing
    obtain ⟨hother, hlegs⟩ := h.ringing hringing
    rw [refused_ignored hringing hother hlegs hinv env hpeer.2 hnew]
    exact h
  obtain ⟨hlegs, hother, hstatus, hrunning⟩ := h.refusedBase hinitial hknown
    (fun hne => by_contra fun heq => hpeer ⟨hne, heq⟩)
  cases hctx : s.sbc.call_ctx with
  | none =>
    obtain ⟨leg', timers', heq, hleg⟩ := refused_none hctx env reply connect
    have hkept : Serial { s with leg := leg', sbc := s.sbc, timers := timers' } :=
      .kept hlegs hother hstatus hleg hprocessed
    rw [heq]
    exact hkept
  | some c =>
    have hdisconnected : s.leg.call_status ≠ .Disconnected := by
      rcases hinitial with heq | heq <;> rw [heq] <;> decide
    obtain ⟨-, hbilled, -⟩ := hinv.going_of_waiting hctx (fun hended => hdisconnected hended.1)
    cases refused_cases hctx hbilled hinv.legs env reply hnew with
    | keeps heq hctx' hbilled' hlater hbills' hleg =>
      rw [heq]
      exact .kept hlegs hother hstatus hleg hprocessed
    | @dials c' leg' sbc' tag profile heq hctx' hbilled' hlater hlt hbills' hprofile hnew' hleg =>
      have hcallee : ((s.leg.refusedBase reply.from_tag).addNewCallee tag).other_legs = [tag] := by
        unfold CallLeg.addNewCallee
        rw [hlegs, if_neg List.not_mem_nil]
        rfl
      have hnoreply :
          ((s.leg.refusedBase reply.from_tag).addNewCallee tag).call_status = .NoReply := by
        unfold CallLeg.addNewCallee
        rw [hstatus]
        rfl
      obtain ⟨hlegs', hother', hstatus', -⟩ := hleg.waiting (by simp [hcallee])
      have hcleared : ((s.timers.removeTimer YETI_FAKE_RINGING_TIMER).clearCallTimer
          YETI_CALL_DURATION_TIMER).call_timers YETI_CALL_DURATION_TIMER = none := by
        unfold CallTimers.clearCallTimer
        dsimp only
        rw [Function.update_self]
      obtain ⟨hlimit, hkeep⟩ := CallTimers.saveTimeLimit_call_timers hcleared profile.time_limit
      have hnone : ((s.timers.removeTimer YETI_FAKE_RINGING_TIMER).clearCallTimer
          YETI_CALL_DURATION_TIMER).running YETI_CALL_DURATION_TIMER = none := by
        have hne : YETI_CALL_DURATION_TIMER ≠ YETI_FAKE_RINGING_TIMER := by decide
        have hupdate := Function.update_of_ne hne none s.timers.running
        exact hupdate.trans hrunning
      rw [heq]
      refine ⟨fun hfalse => ?_, fun _ => hother'.trans hother, fun hringing => ?_,
        fun _ => .inr ⟨⟨tag, c'.current_profile, profile⟩, ⟨by simp, fun c'' hc'' => ?_⟩,
          hlegs'.trans hcallee, hlimit, ?_⟩, fun hconnected => ?_⟩
      · rw [hprocessed] at hfalse
        cases hfalse
      · have hno := (hstatus'.trans hnoreply).symm.trans hringing
        cases hno
      · obtain rfl : c' = c'' := Option.some_inj.mp (hctx'.symm.trans hc'')
        exact ⟨rfl, hprofile⟩
      · show (CallTimers.saveTimeLimit _ profile.time_limit).running _ = none
        rw [hkeep]
        exact hnone
      · have hno := (hstatus'.trans hnoreply).symm.trans hconnected
        cases hno

/-! ### The step lemma -/

omit [IntCast T] in
/-- Another timer than the duration timer is set or removed. -/
theorem own_timer_ne (fake_ringing : Bool) :
    YETI_CALL_DURATION_TIMER ≠
      if fake_ringing then YETI_FAKE_RINGING_TIMER else YETI_RADIUS_INTERIM_TIMER := by
  cases fake_ringing <;> decide

theorem Serial.callTimer (h : s.Serial) {timer_id : Int} (hne : timer_id ≠ YETI_CALL_DURATION_TIMER)
    (timer_action : TimerAction) (timeout : T) :
    Serial { s with timers := s.timers.onCallTimerEvent timer_action timer_id timeout } := by
  obtain ⟨hcall, hrunning⟩ := CallTimers.onCallTimerEvent_ne hne.symm timer_action timeout
    (t := s.timers)
  refine h.timers hcall (fun hstate => ?_) (fun hnone => hrunning.trans hnone)
  rw [CallTimers.onCallTimerEvent_m_state] at hstate
  exact ⟨hstate, hrunning⟩

theorem Serial.ownTimer (h : s.Serial) (fake_ringing : Bool) (timeout : Option T) {timer : Int}
    (htimer : timer = if fake_ringing then YETI_FAKE_RINGING_TIMER else YETI_RADIUS_INTERIM_TIMER) :
    Serial { s with timers := match timeout with
      | some timeout => s.timers.setTimer timer timeout
      | none => s.timers.removeTimer timer } := by
  have hne : YETI_CALL_DURATION_TIMER ≠ timer := htimer ▸ own_timer_ne fake_ringing
  cases timeout with
  | some timeout =>
    have hrunning := Function.update_of_ne hne (some timeout) s.timers.running
    exact h.timers rfl (fun hstate => ⟨hstate, hrunning⟩) (fun hnone => hrunning.trans hnone)
  | none =>
    have hrunning := Function.update_of_ne hne none s.timers.running
    exact h.timers rfl (fun hstate => ⟨hstate, hrunning⟩) (fun hnone => hrunning.trans hnone)

theorem Serial.onStop (h : s.Serial) : Serial { s with timers := s.timers.onStop } := by
  refine h.timers ?_ (fun hstate => ?_) (fun hnone => ?_)
  · unfold CallTimers.onStop CallTimers.stopCallTimers
    split_ifs <;> rfl
  · have hteardown : s.timers.onStop.m_state = .BB_Teardown := rfl
    have hno := hteardown.symm.trans hstate
    cases hno
  · unfold CallTimers.onStop CallTimers.stopCallTimers
    split_ifs
    · dsimp only
      rw [hnone, ite_self]
    · exact hnone

theorem Serial.next (h : s.Serial) (hinv : s.Inv) {l : Label T} (hknown : s.Known l)
    {s' : HuntingLeg T} (hnext : s.next l = some s') : s'.Serial := by
  cases l with
  | processResourcesAndSdp env result =>
    unfold HuntingLeg.next at hnext
    dsimp only at hnext
    split_ifs at hnext with hidle hnew
    swap
    · simp at hnext
    simp only [Option.bind_eq_some_iff] at hnext
    obtain ⟨c, hctx, profile, hprofile, hnext⟩ := hnext
    simp only [Bool.or_eq_true, not_or, Bool.not_eq_true] at hidle
    rw [← Option.some_inj.mp hnext]
    exact h.processResourcesAndSdp hinv hctx hprofile hidle.1.1 hidle.1.2 env result
  | reply env reply forward relayed connect =>
    unfold HuntingLeg.next at hnext
    dsimp only at hnext
    split_ifs at hnext with hinitial hpositive hnew
    · rw [← Option.some_inj.mp hnext]
      exact h.positive hinv hinitial.1 env hinitial.2.1 forward relayed
    · rw [← Option.some_inj.mp hnext]
      exact h.refused hinv hinitial.1 env (hknown (Nat.le_of_not_lt hpositive)) hnew
  | callTimer timer_action timer_id timeout =>
    rw [← Option.some_inj.mp hnext]
    exact h.callTimer hknown timer_action timeout
  | ownTimer fake_ringing timeout =>
    rw [← Option.some_inj.mp hnext]
    exact h.ownTimer fake_ringing timeout rfl
  | timeout timer_id =>
    unfold HuntingLeg.next at hnext
    dsimp only at hnext
    split_ifs at hnext with hruns
    rw [← Option.some_inj.mp hnext]
    exact h.timeout hruns
  | cdr e =>
    rw [← Option.some_inj.mp hnext]
    exact h.updateCdr [e]
  | stopCall =>
    rw [← Option.some_inj.mp hnext]
    exact h.stopCall
  | onBye now =>
    rw [← Option.some_inj.mp hnext]
    exact h.onBye now
  | onOtherBye now =>
    rw [← Option.some_inj.mp hnext]
    exact h.onOtherBye now
  | onStop =>
    rw [← Option.some_inj.mp hnext]
    exact h.onStop
  | onBeforeDestroy =>
    obtain ⟨c, -, heq⟩ := Option.map_eq_some_iff.mp hnext
    rw [← heq]
    refine h.sbc (fun c' hc' => ?_) _ _
    have hnone : (s.onBeforeDestroy c).sbc.call_ctx = none := rfl
    have hno := hnone.symm.trans hc'
    cases hno

/-! ### Runs -/

variable {up : UriParser} {tr : CodesTranslator}

theorem serial_of_reachableUnder (h : (system T up tr).ReachableUnder Known s) :
    s.Inv ∧ s.Serial := by
  refine System.invariant_under (fun s => s.Inv ∧ s.Serial) ?_ ?_ h
  · rintro _ ⟨ctx, start_time, allow_1xx_without_to_tag, hrouted, rfl⟩
    exact ⟨.init hrouted start_time allow_1xx_without_to_tag, .ended rfl fun _ => ⟨rfl, rfl, rfl⟩⟩
  · rintro s l s' ⟨hinv, hserial⟩ hknown hnext
    exact ⟨hinv.next hnext, hserial.next hinv hknown hnext⟩

end HuntingLeg

end Yeti.Call
