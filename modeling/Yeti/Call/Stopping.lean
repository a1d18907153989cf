import Yeti.Call.Forking
import Yeti.Call.Radius

/-! # Accounting stops once

    `updateCallStatus` posts an `End` request each time it is called with
    `Disconnected`.  Callbacks that look at the status first call it once; a BYE of
    the other leg, a missing ACK and others do not look, and `onRemoteDisappeared` has
    the other leg terminated, which disconnects this one, before it disconnects it.
-/

open LTS

namespace Yeti.Call.RadiusLeg

variable {session : AmB2BSession} {s s' : RadiusLeg}

/-! ### What is claimed -/

/-- One `End` request at most, and no `Start` request after it. -/
def StopsOnce (posted : List RadiusRequest) : Prop :=
  posted.count .End ≤ 1 ∧ ∀ before after, posted = before ++ .End :: after → .Start ∉ after

/-- After the `End` request, the event neither disconnects the leg again while there is
    a CDR, nor makes it look for a new peer. -/
def Harmless (s : RadiusLeg) : Label → Prop
  | .bye => s.a_leg = false ∨ s.other_id ≠ "" ∨ s.hasCdr = false
  | .otherBye => s.a_leg = true ∨ s.hasCdr = false
  | .cancel => s.a_leg = false ∨ s.hasCdr = false
  | .sessionTimeout | .noAck | .noPrack => s.hasCdr = false
  | .connect _ | .addNewCallee _ => False
  | .otherRefer _ _ => s.call_ctx = none
  | _ => True

instance (s : RadiusLeg) (l : Label) : Decidable (s.Harmless l) := by
  cases l <;> unfold Harmless <;> infer_instance

/-- The condition on the events: what comes after the `End` request is harmless, and no
    connected leg loses its peer in a way that also terminates the other leg. -/
def Careful (session : AmB2BSession) (s : RadiusLeg) (l : Label) : Prop :=
  (.End ∈ s.posted → s.Harmless l) ∧
    (l = .remoteDisappeared → s.call_status = .Connected → s.hasCdr = true →
      s.enable_stop_accounting = true → .terminateOtherLeg ∉ session.onRemoteDisappeared)

instance (session : AmB2BSession) (s : RadiusLeg) (l : Label) :
    Decidable (s.Careful session l) := by
  unfold Careful
  infer_instance

/-! ### Before and after the end -/

/-- The leg is disconnected, and its last request is the only `End`. -/
structure Ended (s : RadiusLeg) : Prop where
  disconnected : s.call_status = .Disconnected
  last : ∃ before, .End ∉ before ∧ s.posted = before ++ [.End]

/-- What holds in every state. -/
def Inv (s : RadiusLeg) : Prop := .End ∉ s.posted ∨ s.Ended

theorem Inv.stopsOnce (h : s.Inv) : StopsOnce s.posted := by
  rcases h with hopen | ⟨-, before, hbefore, hposted⟩
  · constructor
    · rw [List.count_eq_zero.mpr hopen]
      omega
    · intro before after heq
      exact absurd (by simp [heq]) hopen
  · constructor
    · have hlast : [RadiusRequest.End].count .End = 1 := List.count_singleton_self
      have hcount : s.posted.count .End = 0 + 1 := by
        rw [hposted, List.count_append, List.count_eq_zero.mpr hbefore, hlast]
      omega
    · intro before' after heq
      -- an `End` that is not the last request would be among those before
      rcases List.eq_nil_or_concat after with rfl | ⟨init, last, rfl⟩
      · exact List.not_mem_nil
      · rw [hposted, List.concat_eq_append, ← List.cons_append, ← List.append_assoc] at heq
        have hinit : before = before' ++ .End :: init := (List.append_inj' heq rfl).1
        exact absurd (by simp [hinit]) hbefore

/-- A step that posts nothing and does not bring a disconnected leg back. -/
theorem Inv.of_eq (h : s.Inv) (hposted : s'.posted = s.posted)
    (hstatus : s.call_status = .Disconnected → s'.call_status = .Disconnected) : s'.Inv := by
  rcases h with hopen | hended
  · left
    rwa [hposted]
  · right
    refine ⟨hstatus hended.disconnected, ?_⟩
    rw [hposted]
    exact hended.last

/-! ### The status -/

@[simp] theorem updateCallStatus_status (s : RadiusLeg) (status : CallStatus) :
    (s.updateCallStatus status).call_status = status := by
  unfold updateCallStatus onCallStatusChange
  split_ifs <;> rfl

theorem updateCallStatus_posted (s : RadiusLeg) (status : CallStatus)
    (hstatus : status ≠ .Disconnected) : (s.updateCallStatus status).posted = s.posted := by
  unfold updateCallStatus onCallStatusChange
  rw [if_neg fun h => hstatus h.1]

/-- The hook of the status posts one `End` if there is a CDR. -/
theorem updateCallStatus_disconnected (s : RadiusLeg) :
    (s.updateCallStatus .Disconnected).posted =
      if s.hasCdr = true ∧ s.enable_stop_accounting = true then s.posted ++ [.End]
      else s.posted := by
  have hcdr : { s with call_status := .Disconnected }.hasCdr = s.hasCdr := rfl
  unfold updateCallStatus onCallStatusChange
  simp only [hcdr, true_and]
  split_ifs <;> rfl

theorem inv_disconnected (hopen : .End ∉ s.posted) : (s.updateCallStatus .Disconnected).Inv := by
  unfold Inv
  by_cases hpost : s.hasCdr = true ∧ s.enable_stop_accounting = true
  · right
    refine ⟨updateCallStatus_status s _, s.posted, hopen, ?_⟩
    rw [updateCallStatus_disconnected, if_pos hpost]
  · left
    rw [updateCallStatus_disconnected, if_neg hpost]
    exact hopen

/-- Without a CDR, nothing is posted. -/
theorem inv_disconnected_of_noCdr (h : s.Inv) (hcdr : s.hasCdr = false) :
    (s.updateCallStatus .Disconnected).Inv := by
  refine h.of_eq ?_ fun _ => updateCallStatus_status s _
  rw [updateCallStatus_disconnected, if_neg (by simp [hcdr])]

/-! ### Giving up -/

theorem releaseOthers_status (leg : CallLeg) : leg.releaseOthers.call_status = leg.call_status := by
  have hsend (leg : CallLeg) : leg.sendTerminate.call_status = leg.call_status := by
    unfold CallLeg.sendTerminate CallLeg.clear_other CallLeg.removeOtherLeg
    split_ifs <;> rfl
  unfold CallLeg.releaseOthers
  split_ifs
  · exact hsend leg.terminateNotConnectedLegs
  · exact hsend leg

theorem inv_terminateNotConnectedLegs (h : s.Inv) : s.terminateNotConnectedLegs.Inv := by
  refine h.of_eq ?_ fun hd => ?_
  · rfl
  · exact hd

theorem inv_terminateLeg (h : s.Inv) : s.terminateLeg.Inv := by
  refine h.of_eq ?_ fun hd => ?_
  · rfl
  · exact hd

theorem inv_terminateOtherLeg (h : s.Inv) : s.terminateOtherLeg.Inv := by
  have hstatus := releaseOthers_status s.toCallLeg
  have h₁ : { s with toCallLeg := s.toCallLeg.releaseOthers }.Inv :=
    h.of_eq rfl fun hd => hstatus.trans hd
  unfold terminateOtherLeg
  dsimp only
  split_ifs with hlive
  · rcases h₁ with hopen | hended
    · exact inv_disconnected hopen
    · exact absurd hended.disconnected hlive
  · exact h₁

theorem inv_stopCall (h : s.Inv) : s.stopCall.Inv := by
  unfold stopCall
  dsimp only
  apply inv_terminateLeg
  apply inv_terminateOtherLeg
  apply inv_terminateNotConnectedLegs
  split_ifs with hlive
  · rcases h with hopen | hended
    · exact inv_disconnected hopen
    · exact absurd hended.disconnected hlive
  · exact h

theorem inv_callMethods (h : s.Inv) (methods : List LegMethod) : (s.callMethods methods).Inv := by
  unfold callMethods
  induction methods generalizing s with
  | nil => exact h
  | cons m methods ih =>
    cases m with
    | terminateOtherLeg => exact ih (inv_terminateOtherLeg h)
    | terminateLeg => exact ih (inv_terminateLeg h)

/-- Methods that leave the other leg alone post nothing. -/
theorem callMethods_posted {methods : List LegMethod} (h : .terminateOtherLeg ∉ methods) :
    (s.callMethods methods).posted = s.posted := by
  unfold callMethods
  induction methods generalizing s with
  | nil => rfl
  | cons m methods ih =>
    rw [List.mem_cons, not_or] at h
    cases m with
    | terminateOtherLeg => exact absurd rfl h.1
    | terminateLeg => exact ih h.2

/-! ### Replies -/

/-- A leg that waits for replies has not ended. -/
theorem Inv.open_of_live (h : s.Inv) (hlive : s.call_status ≠ .Disconnected) : .End ∉ s.posted := by
  rcases h with hopen | hended
  · exact hopen
  · exact absurd hended.disconnected hlive

theorem open_onCallConnected (hopen : .End ∉ s.posted) : .End ∉ s.onCallConnected.posted := by
  unfold onCallConnected
  split
  · exact hopen
  · split_ifs
    · simpa using hopen
    · exact hopen
    · exact hopen
    · exact hopen

theorem inv_relay (hopen : .End ∉ s.posted) (failed : Bool) (hstatus : s'.posted = s.posted) :
    (if failed = true then s.stopCall else s').Inv := by
  split_ifs
  · exact inv_stopCall (.inl hopen)
  · left
    rwa [hstatus]

theorem inv_b2bInitial1xx (hopen : .End ∉ s.posted) (reply : AmSipReply) (forward relayed : Bool) :
    (s.b2bInitial1xx reply forward relayed).Inv := by
  unfold b2bInitial1xx
  split
  · exact .inl hopen
  split
  · exact .inl hopen
  split
  · split
    · exact .inl hopen
    next leg _ =>
      have hopen' : .End ∉ ({ s with toCallLeg := leg }.updateCallStatus .Ringing).posted := by
        rw [updateCallStatus_posted _ .Ringing (by decide)]
        exact hopen
      exact inv_relay hopen' _ rfl
  split
  · exact inv_relay hopen _ rfl
  · exact .inl hopen

theorem inv_b2bInitial2xx (hopen : .End ∉ s.posted) (reply : AmSipReply) (forward relayed : Bool) :
    (s.b2bInitial2xx reply forward relayed).Inv := by
  unfold b2bInitial2xx
  split
  · exact .inl hopen
  · refine inv_relay (open_onCallConnected ?_) _ (updateCallStatus_posted _ .Connected (by decide))
    exact hopen

theorem foldl_addNewCallee_posted (callees : List String) (s : RadiusLeg) :
    (callees.foldl addNewCallee s).posted = s.posted := by
  induction callees generalizing s with
  | nil => rfl
  | cons tag callees ih => exact ih (s.addNewCallee tag)

theorem inv_b2bInitialErr (hopen : .End ∉ s.posted) (reply : AmSipReply) (callees : List String)
    (throws : Bool) : (s.b2bInitialErr reply callees throws).Inv := by
  unfold b2bInitialErr
  split
  · left
    rw [foldl_addNewCallee_posted]
    exact hopen
  · have hopen' : .End ∉ (callees.foldl addNewCallee
        ((s.removeOtherLeg reply.from_tag).updateCallStatus .NoReply)).posted := by
      rw [foldl_addNewCallee_posted, updateCallStatus_posted _ .NoReply (by decide)]
      exact hopen
    dsimp only
    split
    · exact .inl hopen'
    split
    · exact .inl hopen'
    · exact inv_stopCall (inv_disconnected hopen')

theorem inv_onB2BReply (h : s.Inv) (reply : AmSipReply) (initial forward relayed : Bool)
    (callees : List String) (throws : Bool) :
    (s.onB2BReply reply initial forward relayed callees throws).Inv := by
  unfold onB2BReply
  split_ifs with hinitial _ _ hconnected
  all_goals
    try have hopen := h.open_of_live (by rcases hinitial.2 with hs | hs <;> simp [hs])
  · exact inv_b2bInitial1xx hopen reply forward relayed
  · exact inv_b2bInitial2xx hopen reply forward relayed
  · exact inv_b2bInitialErr hopen reply callees throws
  · left
    exact h.open_of_live (by simp [hconnected.1])
  · unfold b2bConnectedErr
    split_ifs
    · exact h
    · exact inv_terminateLeg h
  · exact h

theorem inv_onSipReply (h : s.Inv) (reply : AmSipReply) : (s.onSipReply reply).Inv := by
  unfold onSipReply
  split_ifs with hwaits
  all_goals
    try have hopen := h.open_of_live (by rcases hwaits with hs | hs <;> simp [hs])
  · left
    rwa [updateCallStatus_posted _ .Ringing (by decide)]
  · exact h
  · left
    rw [updateCallStatus_posted _ .Connected (by decide)]
    exact open_onCallConnected hopen
  · exact inv_terminateLeg (inv_disconnected hopen)
  · exact h
  · exact h

/-! ### Ends -/

/-- The leg is disconnected whatever its status is. -/
theorem inv_updateCallStatus (h : s.Inv) (hcdr : .End ∈ s.posted → s.hasCdr = false) :
    (s.updateCallStatus .Disconnected).Inv := by
  by_cases hended : .End ∈ s.posted
  · exact inv_disconnected_of_noCdr h (hcdr hended)
  · exact inv_disconnected hended

theorem inv_disconnected_event (h : s.Inv) (hcdr : .End ∈ s.posted → s.hasCdr = false)
    (methods : List LegMethod) : (s.disconnected methods).Inv :=
  inv_callMethods (inv_updateCallStatus h hcdr) methods

theorem inv_onOtherBye (h : s.Inv)
    (hharmless : .End ∈ s.posted → s.a_leg = true ∨ s.hasCdr = false) :
    (s.onOtherBye session).Inv := by
  have hwritten : s.write_cdr.hasCdr = false := by
    unfold write_cdr hasCdr
    cases s.call_ctx <;> rfl
  unfold onOtherBye
  dsimp only
  split_ifs with hearly
  · -- the CDR of the A leg is written before
    have h' : s.write_cdr.Inv := h.of_eq rfl fun hd => hd
    exact inv_disconnected_event h' (fun _ => hwritten) _
  · refine inv_disconnected_event h (fun hended => ?_) _
    have hd : s.call_status = .Disconnected := by
      by_contra hlive
      exact h.open_of_live hlive hended
    refine (hharmless hended).resolve_left fun ha => hearly ⟨ha, ?_⟩
    rw [hd]
    decide

theorem inv_onBye (h : s.Inv)
    (hharmless : .End ∈ s.posted → s.a_leg = false ∨ s.hasCdr = false) :
    (s.onBye session).Inv := by
  unfold onBye
  split_ifs with hctx hearly
  · exact h
  · exact inv_terminateLeg h
  · refine inv_callMethods ?_ _
    refine inv_updateCallStatus (inv_terminateNotConnectedLegs h) fun hended => ?_
    show s.hasCdr = false
    rcases hharmless hended with hleg | hcdr
    · -- an early BYE of a B leg with a CDR does not come here
      have hd : s.call_status = .Disconnected := by
        by_contra hlive
        exact h.open_of_live hlive hended
      by_contra hcdr
      exact hearly ⟨by simpa using hcdr, by simp [hd], hleg⟩
    · exact hcdr

theorem inv_onSipBye (h : s.Inv) (hharmless : .End ∈ s.posted → s.Harmless .bye) :
    (s.onSipBye session).Inv := by
  unfold onSipBye
  split_ifs with hd hother
  · refine inv_stopCall (inv_onBye h fun hended => ?_)
    exact (hharmless hended).imp_right fun hcase => hcase.resolve_left (not_not.mpr hother)
  · exact h
  · exact inv_onBye h fun hended => absurd hended (h.open_of_live hd)

/-- There is no CDR to account for, or no stop accounting. -/
def Silent (s : RadiusLeg) : Prop := ¬ (s.hasCdr = true ∧ s.enable_stop_accounting = true)

theorem updateCallStatus_silent (h : s.Silent) :
    s.updateCallStatus .Disconnected = { s with call_status := .Disconnected } := by
  unfold updateCallStatus onCallStatusChange
  rw [if_neg fun hpost => h hpost.2]

theorem callMethods_silent (h : s.Silent) (methods : List LegMethod) :
    (s.callMethods methods).Silent ∧ (s.callMethods methods).posted = s.posted := by
  have hother (s : RadiusLeg) (h : s.Silent) :
      s.terminateOtherLeg.Silent ∧ s.terminateOtherLeg.posted = s.posted := by
    have h₁ : { s with toCallLeg := s.toCallLeg.releaseOthers }.Silent := h
    unfold terminateOtherLeg
    dsimp only
    rw [updateCallStatus_silent h₁]
    split_ifs
    · exact ⟨h, rfl⟩
    · exact ⟨h, rfl⟩
  unfold callMethods
  induction methods generalizing s with
  | nil => exact ⟨h, rfl⟩
  | cons m methods ih =>
    cases m with
    | terminateOtherLeg =>
      have hfirst := hother s h
      have hrest := ih hfirst.1
      exact ⟨hrest.1, hrest.2.trans hfirst.2⟩
    | terminateLeg => exact ih h

theorem inv_onRemoteDisappeared (h : s.Inv) (hok : s.Careful session .remoteDisappeared) :
    (s.onRemoteDisappeared session).Inv := by
  unfold onRemoteDisappeared
  split_ifs with hconnected
  · have hopen := h.open_of_live (by simp [hconnected])
    apply inv_disconnected
    by_cases hpost : s.hasCdr = true ∧ s.enable_stop_accounting = true
    · rwa [callMethods_posted (hok.2 rfl hconnected hpost.1 hpost.2)]
    · rwa [(callMethods_silent hpost _).2]
  · exact h

theorem inv_onCancel (h : s.Inv) (hharmless : .End ∈ s.posted → s.Harmless .cancel) :
    s.onCancel.Inv := by
  unfold onCancel
  split_ifs with hcancel
  · refine inv_stopCall (inv_updateCallStatus h fun hended => ?_)
    exact (hharmless hended).resolve_left (by simp [hcancel.2])
  · exact h

theorem inv_onRtpTimeoutOverride (h : s.Inv) : (s.onRtpTimeoutOverride session).Inv := by
  unfold onRtpTimeoutOverride
  split_ifs with hignored
  · exact h
  · refine inv_disconnected_event h (fun hended => ?_) _
    rw [not_or, not_not] at hignored
    exact absurd hended (h.open_of_live (by simp [hignored.2]))

/-- A leg that has not posted its `End` may connect again. -/
theorem inv_onB2BConnect (h : s.Inv) (hopen : .End ∉ s.posted) (sent : Bool) :
    (s.onB2BConnect sent).Inv := by
  unfold onB2BConnect
  dsimp only
  split_ifs
  · exact h
  · left
    rw [updateCallStatus_posted _ .NoReply (by decide)]
    exact hopen
  · exact inv_stopCall (.inl hopen)

theorem inv_onOtherRefer (h : s.Inv) (hharmless : .End ∈ s.posted → s.call_ctx = none)
    (referrer_session tag : String) : (s.onOtherRefer referrer_session tag).Inv := by
  unfold onOtherRefer
  dsimp only
  split
  next hctx => exact h.of_eq rfl fun hd => hd
  next ctx hctx =>
    -- a leg with a context has not posted its `End`
    left
    intro hended
    have hnone : s.call_ctx = none := hharmless hended
    have hsome : s.call_ctx = some ctx := hctx
    rw [hnone] at hsome
    cases hsome

/-- Every event keeps the invariant. -/
theorem inv_handle (h : s.Inv) {l : Label} (hok : s.Careful session l) :
    (s.handle session l).Inv := by
  have hharmless := hok.1
  cases l with
  | bye => exact inv_onSipBye h hharmless
  | otherBye => exact inv_onOtherBye h hharmless
  | cancel => exact inv_onCancel h hharmless
  | rtpTimeout => exact inv_onRtpTimeoutOverride h
  | sessionTimeout => exact inv_disconnected_event h hharmless _
  | noAck => exact inv_disconnected_event h hharmless _
  | noPrack => exact inv_disconnected_event h hharmless _
  | remoteDisappeared => exact inv_onRemoteDisappeared h hok
  | stopCall => exact inv_stopCall h
  | terminateLeg => exact inv_terminateLeg h
  | sipReply reply => exact inv_onSipReply h reply
  | b2bReply reply initial forward relayed callees throws =>
    exact inv_onB2BReply h reply initial forward relayed callees throws
  | connect sent => exact inv_onB2BConnect h hharmless sent
  | addNewCallee tag =>
    have hopen : .End ∉ s.posted := hharmless
    exact .inl hopen
  | otherRefer referrer_session tag => exact inv_onOtherRefer h hharmless referrer_session tag
  | context call_ctx => exact h.of_eq rfl fun hd => hd

/-! ### The leg without accounting -/

theorem toCallLeg_updateCallStatus (s : RadiusLeg) (status : CallStatus) :
    (s.updateCallStatus status).toCallLeg = { s.toCallLeg with call_status := status } := by
  unfold updateCallStatus onCallStatusChange
  split_ifs <;> rfl

theorem toCallLeg_terminateOtherLeg (s : RadiusLeg) :
    s.terminateOtherLeg.toCallLeg = s.toCallLeg.terminateOtherLeg := by
  have hleg : s.toCallLeg.terminateOtherLeg =
      { s.toCallLeg.releaseOthers with call_status := .Disconnected } := rfl
  unfold terminateOtherLeg
  dsimp only
  rw [hleg]
  split_ifs with hlive
  · exact toCallLeg_updateCallStatus _ _
  · rw [← not_not.mp hlive]

theorem toCallLeg_stopCall (s : RadiusLeg) : s.stopCall.toCallLeg = s.toCallLeg.stopCall := by
  have hfirst : (if s.call_status ≠ .Disconnected then s.updateCallStatus .Disconnected
      else s).toCallLeg = { s.toCallLeg with call_status := .Disconnected } := by
    split_ifs with hlive
    · exact toCallLeg_updateCallStatus _ _
    · rw [← not_not.mp hlive]
  unfold stopCall CallLeg.stopCall
  dsimp only [terminateLeg]
  rw [toCallLeg_terminateOtherLeg, ← hfirst]
  rfl

theorem toCallLeg_onCallConnected (s : RadiusLeg) : s.onCallConnected.toCallLeg = s.toCallLeg := by
  unfold onCallConnected
  split
  · rfl
  · split_ifs <;> rfl

theorem toCallLeg_b2bInitial1xx (s : RadiusLeg) (reply : AmSipReply) (forward relayed : Bool) :
    (s.b2bInitial1xx reply forward relayed).toCallLeg =
      s.toCallLeg.b2bInitial1xx reply forward relayed := by
  unfold b2bInitial1xx CallLeg.b2bInitial1xx
  split_ifs
  all_goals first | rfl | exact toCallLeg_stopCall s | skip
  · cases s.toCallLeg.setOther reply.from_tag with
    | none => rfl
    | some leg =>
      dsimp only
      rw [toCallLeg_stopCall, toCallLeg_updateCallStatus]
  · cases s.toCallLeg.setOther reply.from_tag with
    | none => rfl
    | some leg =>
      dsimp only
      rw [toCallLeg_updateCallStatus]

theorem toCallLeg_b2bInitial2xx (s : RadiusLeg) (reply : AmSipReply) (forward relayed : Bool) :
    (s.b2bInitial2xx reply forward relayed).toCallLeg =
      s.toCallLeg.b2bInitial2xx reply forward relayed := by
  unfold b2bInitial2xx CallLeg.b2bInitial2xx
  cases s.toCallLeg.setOther reply.from_tag with
  | none => rfl
  | some leg =>
    dsimp only
    split_ifs
    · rw [toCallLeg_stopCall, toCallLeg_onCallConnected]
      rfl
    · rw [toCallLeg_updateCallStatus, toCallLeg_onCallConnected]
      rfl

theorem toCallLeg_foldl_addNewCallee (callees : List String) (s : RadiusLeg) :
    (callees.foldl addNewCallee s).toCallLeg = callees.foldl CallLeg.addNewCallee s.toCallLeg := by
  induction callees generalizing s with
  | nil => rfl
  | cons tag callees ih => exact ih (s.addNewCallee tag)

theorem toCallLeg_b2bInitialErr (s : RadiusLeg) (reply : AmSipReply) (callees : List String)
    (throws : Bool) :
    (s.b2bInitialErr reply callees throws).toCallLeg =
      (CallLeg.b2bInitialErr (ForkingLeg.refusedHook callees throws) s.toCallLeg () reply).1 := by
  unfold b2bInitialErr CallLeg.b2bInitialErr ForkingLeg.refusedHook
  dsimp only
  split
  · exact toCallLeg_foldl_addNewCallee _ _
  have hleg : (callees.foldl addNewCallee
      ((s.removeOtherLeg reply.from_tag).updateCallStatus .NoReply)).toCallLeg =
      callees.foldl CallLeg.addNewCallee
        { s.toCallLeg.removeOtherLeg reply.from_tag with call_status := .NoReply } := by
    rw [toCallLeg_foldl_addNewCallee, toCallLeg_updateCallStatus]
    rfl
  cases throws with
  | true => exact hleg
  | false =>
    dsimp only
    rw [← hleg]
    rw [if_neg (by decide)]
    split_ifs
    · rfl
    · rw [toCallLeg_stopCall, toCallLeg_updateCallStatus]

/-- Accounting does not interfere: initial replies move the leg as without it. -/
theorem toCallLeg_onB2BReply (hwaits : s.call_status = .NoReply ∨ s.call_status = .Ringing)
    (reply : AmSipReply) (forward relayed : Bool) (callees : List String) (throws : Bool) :
    (s.onB2BReply reply true forward relayed callees throws).toCallLeg =
      if reply.code < 300 then s.toCallLeg.onPositiveReply reply forward relayed
      else (CallLeg.b2bInitialErr (ForkingLeg.refusedHook callees throws) s.toCallLeg () reply).1 := by
  unfold onB2BReply CallLeg.onPositiveReply
  rw [if_pos ⟨rfl, hwaits⟩]
  by_cases h200 : reply.code < 200
  · have h300 : reply.code < 300 := by omega
    rw [if_pos h200, if_pos h300, if_pos h200, toCallLeg_b2bInitial1xx]
  · rw [if_neg h200]
    split_ifs
    · exact toCallLeg_b2bInitial2xx s reply forward relayed
    · exact toCallLeg_b2bInitialErr s reply callees throws

/-! ### Runs -/

theorem inv_of_reachable (h : (system session).ReachableUnder (Careful session) s) : s.Inv := by
  refine System.invariant_under Inv ?_ ?_ h
  · intro s hinit
    left
    rw [hinit.2.2]
    exact List.not_mem_nil
  · intro s l s' hinv hok hnext
    rw [← Option.some_inj.mp hnext]
    exact inv_handle hinv hok

/-- Accounting stops once in every run of careful events. -/
theorem stopsOnce_of_careful (session : AmB2BSession) (s : RadiusLeg)
    (h : (system session).ReachableUnder (Careful session) s) : StopsOnce s.posted :=
  (inv_of_reachable h).stopsOnce

/-- The callbacks of `AmB2BSession`, which terminate the other leg and stop this one. -/
def stackSession : AmB2BSession where
  onBye := [.terminateLeg]
  onOtherBye := [.terminateLeg]
  onNoAck := [.terminateOtherLeg, .terminateLeg]
  onNoPrack := [.terminateOtherLeg, .terminateLeg]
  onRtpTimeout := [.terminateOtherLeg, .terminateLeg]
  onSessionTimeout := [.terminateOtherLeg, .terminateLeg]
  onRemoteDisappeared := [.terminateOtherLeg, .terminateLeg]

/-- A new B leg of the A leg `a1`, with accounting. -/
def newBLeg : RadiusLeg :=
  { other_id := "a1", a_leg := false, enable_start_accounting := true,
    enable_stop_accounting := true, call_ctx := some { cdr := true } }

/-- A call that ends with an RTP timeout; a BYE and `stopCall` come late. -/
theorem stopsOnce_of_careful_rtpTimeout :
    ∃ s, (system stackSession).ReachableUnder (Careful stackSession) s ∧
      s.posted = [.Start, .End] ∧ StopsOnce s.posted := by
  obtain ⟨s, hs, hposted⟩ := System.exists_reachableUnder_of_any (system stackSession)
    (Careful stackSession) (fun s => decide (s.posted = [.Start, .End])) newBLeg
    [.connect true, .sipReply { code := 200, from_tag := "b1" }, .rtpTimeout, .bye, .stopCall]
    ⟨rfl, rfl, rfl⟩ (by decide)
  exact ⟨s, hs, by simpa using hposted, stopsOnce_of_careful stackSession s hs⟩

/-- Both parties hang up at the same time: the BYE of the callee and the BYE of the
    other leg each post an `End`. -/
theorem not_stopsOnce_glare :
    ∃ s, (system stackSession).Reachable s ∧ ¬ StopsOnce s.posted := by
  obtain ⟨s, hs, hposted⟩ := System.exists_reachableUnder_of_any (system stackSession)
    (fun _ _ => True) (fun s => decide (s.posted = [.Start, .End, .End])) newBLeg
    [.connect true, .sipReply { code := 200, from_tag := "b1" }, .bye, .otherBye]
    ⟨rfl, rfl, rfl⟩ (by decide)
  refine ⟨s, hs, fun honce => ?_⟩
  have hcount := honce.1
  rw [of_decide_eq_true hposted] at hcount
  revert hcount
  decide

end Yeti.Call.RadiusLeg
