import Mathlib.Data.List.Nodup
import Yeti.Framework.System
import Yeti.Call.CallLeg

/-! # Forking: one leg is connected, the others are given up

    Runs of an A leg up to the first time it is connected: callees are added, also
    from `onBLegRefused`, and replies to the initial INVITE come from any leg in any
    order.  The ledger says where every leg that was ever added is: among the legs
    that may still be connected, refused by its own reply, or told to terminate.
-/

open LTS

namespace Yeti.Call

/-! ### Runs -/

/-- The A leg, with the history of its B legs. -/
structure ForkingLeg where
  leg : CallLeg
  /-- `call_ctx->ringing_sent`, if there is a `call_ctx`. -/
  ringing_sent : Option Bool := none
  /-- The tags of all legs that were added. -/
  added : List String := []
  /-- The legs that were removed because of their own negative reply. -/
  refused : List String := []
  /-- The leg whose 2xx has connected the call. -/
  accepted : Option String := none
  deriving DecidableEq, Repr

namespace ForkingLeg

/-- `AmSession::getNewId` gives new tags. -/
def newTags (s : ForkingLeg) (tags : List String) : Bool :=
  tags.Nodup && tags.all fun tag => tag ≠ "" && tag ∉ s.added

/-- `SBCCallLeg::onInitialReply` for provisional and positive replies.  `SBCCallLeg`
    notes that the caller hears ringing before it looks at the reply. -/
def positive (s : ForkingLeg) (reply : AmSipReply) (forward relayed : Bool) : ForkingLeg :=
  let leg := s.leg.onPositiveReply reply forward relayed
  { s with
    leg := leg
    ringing_sent :=
      if reply.code < 200 ∧ reply.code ≠ 100 then s.ringing_sent.map fun _ => true
      else s.ringing_sent
    accepted := if leg.call_status = .Connected then some reply.from_tag else s.accepted }

/-- The hook for a refused leg: it adds callees, and may throw. -/
def refusedHook (callees : List String) (throws : Bool) : CallLeg.RefusedHook Unit :=
  fun leg s _ => ((callees.foldl CallLeg.addNewCallee leg, s), throws)

/-- `CallLeg::onInitialReply` for negative replies. -/
def negative (s : ForkingLeg) (reply : AmSipReply) (callees : List String) (throws : Bool) :
    ForkingLeg :=
  { s with
    leg := (CallLeg.b2bInitialErr (refusedHook callees throws) s.leg () reply).1
    added := s.added ++ callees
    refused := if reply.from_tag ∈ s.leg.other_legs then s.refused ++ [reply.from_tag]
      else s.refused }

inductive Label where
  | addNewCallee (tag : String)
  /-- An initial reply is delivered to `onB2BReply`; `callees` and `throws` are what
      `onBLegRefused` does if it is called. -/
  | reply (reply : AmSipReply) (forward relayed : Bool) (callees : List String) (throws : Bool)
  deriving DecidableEq, Repr

/-- One step, up to the first connect. -/
def next (s : ForkingLeg) (l : Label) : Option ForkingLeg :=
  if s.leg.call_status = .Connected then none
  else
    match l with
    | .addNewCallee tag =>
      if s.newTags [tag] then
        some { s with leg := s.leg.addNewCallee tag, added := s.added ++ [tag] }
      else none
    | .reply reply forward relayed callees throws =>
      -- `onB2BReply` takes it as initial only in these states
      if (s.leg.call_status = .NoReply ∨ s.leg.call_status = .Ringing) ∧
          reply.from_tag ≠ "" ∧ 100 ≤ reply.code then
        if reply.code < 300 then some (s.positive reply forward relayed)
        else if s.newTags callees then some (s.negative reply callees throws)
        else none
      else none

/-- A new A leg. -/
def system : System ForkingLeg Label where
  init := fun s => ∃ allow_1xx_without_to_tag ringing_sent,
    s = { leg := { allow_1xx_without_to_tag }, ringing_sent }
  next := next

/-- What a connected call looks like: it is connected to the leg whose 2xx was
    accepted, and every other leg was refused or told to terminate, once. -/
structure Connected (s : ForkingLeg) : Prop where
  accepted : s.accepted = some s.leg.other_id
  added : s.leg.other_id ∈ s.added
  other_legs : s.leg.other_legs = []
  others : ∀ tag ∈ s.added, tag ≠ s.leg.other_id →
    tag ∈ s.refused ∨ s.leg.terminated.count tag = 1

/-! ### The ledger of legs -/

/-- Where the legs are; `live` are those that may still be connected. -/
structure Ledger (live terminated refused added : List String) : Prop where
  nodup : live.Nodup
  live_added : ∀ tag ∈ live, tag ∈ added
  live_free : ∀ tag ∈ live, tag ∉ refused ∧ tag ∉ terminated
  gone : ∀ tag ∈ added, tag ∉ live → tag ∈ refused ∨ terminated.count tag = 1
  terminated_added : ∀ tag ∈ terminated, tag ∈ added
  refused_added : ∀ tag ∈ refused, tag ∈ added

namespace Ledger

variable {live terminated refused added : List String}

/-- Some of the live legs are told to terminate. -/
theorem terminate (h : Ledger live terminated refused added) (p : String → Bool) :
    Ledger (live.filter fun tag => !p tag) (terminated ++ live.filter p) refused added where
  nodup := h.nodup.filter _
  live_added tag htag := h.live_added tag (List.mem_filter.mp htag).1
  live_free tag htag := by
    obtain ⟨hlive, hp⟩ := List.mem_filter.mp htag
    refine ⟨(h.live_free tag hlive).1, ?_⟩
    intro hmem
    rcases List.mem_append.mp hmem with hmem | hmem
    · exact (h.live_free tag hlive).2 hmem
    · simp [(List.mem_filter.mp hmem).2] at hp
  gone tag htag hnot := by
    rw [List.count_append]
    by_cases hlive : tag ∈ live
    · -- it was live, so it is one of those terminated now
      right
      have hp : p tag = true := by
        by_contra hp
        exact hnot (List.mem_filter.mpr ⟨hlive, by simpa using hp⟩)
      have hbefore : terminated.count tag = 0 :=
        List.count_eq_zero.mpr (h.live_free tag hlive).2
      have hnow : (live.filter p).count tag = 1 :=
        List.count_eq_one_of_mem (h.nodup.filter p) (List.mem_filter.mpr ⟨hlive, hp⟩)
      omega
    · rcases h.gone tag htag hlive with hrefused | hone
      · exact .inl hrefused
      · right
        have hnow : (live.filter p).count tag = 0 := by
          apply List.count_eq_zero.mpr
          intro hmem
          exact hlive (List.mem_filter.mp hmem).1
        omega
  terminated_added tag htag := by
    rcases List.mem_append.mp htag with htag | htag
    · exact h.terminated_added tag htag
    · exact h.live_added tag (List.mem_filter.mp htag).1
  refused_added := h.refused_added

/-- A live leg is removed because of its negative reply. -/
theorem refuse (h : Ledger live terminated refused added) {id : String} (hid : id ∈ live) :
    Ledger (live.filter (· ≠ id)) terminated (refused ++ [id]) added where
  nodup := h.nodup.filter _
  live_added tag htag := h.live_added tag (List.mem_filter.mp htag).1
  live_free tag htag := by
    obtain ⟨hlive, hne⟩ := List.mem_filter.mp htag
    refine ⟨?_, (h.live_free tag hlive).2⟩
    intro hmem
    rcases List.mem_append.mp hmem with hmem | hmem
    · exact (h.live_free tag hlive).1 hmem
    · simp [List.mem_singleton.mp hmem] at hne
  gone tag htag hnot := by
    by_cases heq : tag = id
    · left
      rw [heq]
      simp
    · have hlive : tag ∉ live := by
        intro hlive
        exact hnot (List.mem_filter.mpr ⟨hlive, by simpa using heq⟩)
      rcases h.gone tag htag hlive with hrefused | hone
      · exact .inl (List.mem_append_left _ hrefused)
      · exact .inr hone
  terminated_added := h.terminated_added
  refused_added tag htag := by
    rcases List.mem_append.mp htag with htag | htag
    · exact h.refused_added tag htag
    · rw [List.mem_singleton.mp htag]
      exact h.live_added id hid

/-- A new leg is added. -/
theorem add (h : Ledger live terminated refused added) {tag : String} (hnew : tag ∉ added) :
    Ledger (live ++ [tag]) terminated refused (added ++ [tag]) where
  nodup := by
    have hnot : tag ∉ live := fun hlive => hnew (h.live_added tag hlive)
    exact List.nodup_append.mpr ⟨h.nodup, List.nodup_singleton tag, by
      intro a ha b hb hab
      rw [hab, List.mem_singleton.mp hb] at ha
      exact hnot ha⟩
  live_added x hx := by
    rcases List.mem_append.mp hx with hx | hx
    · exact List.mem_append_left _ (h.live_added x hx)
    · exact List.mem_append_right _ hx
  live_free x hx := by
    rcases List.mem_append.mp hx with hx | hx
    · exact h.live_free x hx
    · rw [List.mem_singleton.mp hx]
      exact ⟨fun hmem => hnew (h.refused_added tag hmem),
        fun hmem => hnew (h.terminated_added tag hmem)⟩
  gone x hx hnot := by
    rw [List.mem_append, not_or] at hnot
    rcases List.mem_append.mp hx with hx | hx
    · exact h.gone x hx hnot.1
    · exact absurd hx hnot.2
  terminated_added x hx := List.mem_append_left _ (h.terminated_added x hx)
  refused_added x hx := List.mem_append_left _ (h.refused_added x hx)

end Ledger

/-! ### The invariant -/

/-- The legs of a call that is not connected; `leg.other_id` is one of those that may be. -/
structure Open (leg : CallLeg) (refused added : List String) : Prop where
  ledger : Ledger leg.other_legs leg.terminated refused added
  peer : leg.other_id = "" ∨ leg.other_id ∈ leg.other_legs

/-- The invariant. -/
structure Inv (s : ForkingLeg) : Prop where
  tags : "" ∉ s.added
  open_legs : s.leg.call_status ≠ .Connected → Open s.leg s.refused s.added
  connected : s.leg.call_status = .Connected → s.accepted = some s.leg.other_id ∧
    s.leg.other_legs = [] ∧ Ledger [s.leg.other_id] s.leg.terminated s.refused s.added

theorem Inv.safe {s : ForkingLeg} (h : Inv s) (hstatus : s.leg.call_status = .Connected) :
    Connected s := by
  obtain ⟨haccepted, hnone, hledger⟩ := h.connected hstatus
  refine ⟨haccepted, hledger.live_added _ (List.mem_singleton.mpr rfl), hnone, ?_⟩
  intro tag htag hne
  exact hledger.gone tag htag (fun hmem => hne (List.mem_singleton.mp hmem))

section Steps

variable {leg : CallLeg} {refused added : List String}

theorem filter_eq_peer (h : Ledger leg.other_legs leg.terminated refused added)
    (hpeer : leg.other_id ∈ leg.other_legs) :
    leg.other_legs.filter (· = leg.other_id) = [leg.other_id] := by
  have hcount : leg.other_legs.count leg.other_id = 1 :=
    List.count_eq_one_of_mem h.nodup hpeer
  show leg.other_legs.filter (· == leg.other_id) = _
  rw [List.filter_beq, hcount]
  rfl

/-- All other legs are told to terminate. -/
theorem ledger_terminateNotConnectedLegs (h : Open leg refused added)
    (hpeer : leg.other_id ∈ leg.other_legs) :
    Ledger [leg.other_id] leg.terminateNotConnectedLegs.terminated refused added := by
  have hrest := h.ledger.terminate (fun tag => decide (tag ≠ leg.other_id))
  have hkept : (leg.other_legs.filter fun tag => !decide (tag ≠ leg.other_id)) =
      leg.other_legs.filter (· = leg.other_id) := by
    apply List.filter_congr
    intro tag _
    simp
  rw [hkept, filter_eq_peer h.ledger hpeer] at hrest
  exact hrest

/-- What `stopCall` does: all legs are told to terminate, the peer last. -/
theorem stopCall_eq (htags : "" ∉ leg.other_legs) :
    leg.stopCall.call_status = .Disconnected ∧ leg.stopCall.other_id = "" ∧
      leg.stopCall.other_legs = [] ∧
      leg.stopCall.terminated = leg.terminated ++ leg.other_legs.filter (· ≠ leg.other_id) ++
        if leg.other_id = "" then [] else [leg.other_id] := by
  have hnone : leg.other_id = "" → leg.other_legs.filter (· = leg.other_id) = [] := by
    intro hempty
    rw [hempty]
    apply List.filter_eq_nil_iff.mpr
    intro tag htag
    have hne : tag ≠ "" := fun heq => htags (heq ▸ htag)
    simpa using hne
  unfold CallLeg.stopCall CallLeg.terminateOtherLeg CallLeg.sendTerminate
    CallLeg.terminateNotConnectedLegs CallLeg.clear_other CallLeg.removeOtherLeg
  by_cases hempty : leg.other_id = ""
  · have hnone' := hnone hempty
    simp only [hempty] at hnone' ⊢
    simp [hnone']
  · simp [hempty]

/-- A call that is stopped keeps its ledger. -/
theorem Open.stopCall (h : Open leg refused added) (htags : "" ∉ added) :
    leg.stopCall.call_status ≠ .Connected ∧ Open leg.stopCall refused added := by
  have hlegs : "" ∉ leg.other_legs := fun hmem => htags (h.ledger.live_added _ hmem)
  obtain ⟨hstatus, hother, hnone, hterminated⟩ := stopCall_eq hlegs
  refine ⟨by rw [hstatus]; decide, ?_, .inl hother⟩
  rw [hnone, hterminated]
  by_cases hempty : leg.other_id = ""
  · have hall : leg.other_legs.filter (· ≠ leg.other_id) = leg.other_legs := by
      apply List.filter_eq_self.mpr
      intro tag htag
      have hne : tag ≠ leg.other_id := fun heq => hlegs (by rw [← hempty, ← heq]; exact htag)
      simpa using hne
    rw [if_pos hempty, hall, List.append_nil]
    have hrest := h.ledger.terminate fun _ => true
    simpa using hrest
  · have hpeer : leg.other_id ∈ leg.other_legs := h.peer.resolve_left hempty
    have hrest := (ledger_terminateNotConnectedLegs h hpeer).terminate fun _ => true
    rw [if_neg hempty]
    simpa [CallLeg.terminateNotConnectedLegs] using hrest

/-- A leg that has lost its peers before the call could be connected. -/
theorem open_stopCall_connected {leg : CallLeg} (hid : leg.other_id ≠ "")
    (hnone : leg.other_legs = []) (h : Ledger [leg.other_id] leg.terminated refused added) :
    leg.stopCall.call_status ≠ .Connected ∧ Open leg.stopCall refused added := by
  obtain ⟨hstatus, hother, hnone', hterminated⟩ := stopCall_eq (show "" ∉ leg.other_legs by simp [hnone])
  refine ⟨by rw [hstatus]; decide, ?_, .inl hother⟩
  rw [hnone', hterminated, hnone, if_neg hid]
  have hrest := h.terminate fun _ => true
  simpa using hrest

theorem Open.addNewCallee (h : Open leg refused added) {tag : String} (hnew : tag ∉ added) :
    Open (leg.addNewCallee tag) refused (added ++ [tag]) := by
  have hnot : tag ∉ leg.other_legs := fun hmem => hnew (h.ledger.live_added tag hmem)
  unfold CallLeg.addNewCallee
  rw [if_neg hnot]
  exact ⟨h.ledger.add hnew, h.peer.imp_right (List.mem_append_left _)⟩

theorem addNewCallee_status (leg : CallLeg) (tag : String)
    (hstatus : leg.call_status ≠ .Connected) :
    (leg.addNewCallee tag).call_status ≠ .Connected := by
  show (if leg.call_status = .Disconnected then CallStatus.NoReply else leg.call_status) ≠ _
  split_ifs
  · decide
  · exact hstatus

/-- The callees that `onBLegRefused` adds. -/
theorem Open.addNewCallees {callees : List String} (h : Open leg refused added)
    (hstatus : leg.call_status ≠ .Connected) (hnodup : callees.Nodup)
    (hnew : ∀ tag ∈ callees, tag ∉ added) :
    (callees.foldl CallLeg.addNewCallee leg).call_status ≠ .Connected ∧
      Open (callees.foldl CallLeg.addNewCallee leg) refused (added ++ callees) := by
  induction callees generalizing leg added with
  | nil =>
    rw [List.append_nil]
    exact ⟨hstatus, h⟩
  | cons tag callees ih =>
    obtain ⟨htag, hnodup⟩ := List.nodup_cons.mp hnodup
    have hfirst := h.addNewCallee (hnew tag List.mem_cons_self)
    rw [List.append_cons]
    apply ih hfirst (addNewCallee_status leg tag hstatus) hnodup
    intro other hother hmem
    rcases List.mem_append.mp hmem with hmem | hmem
    · exact hnew other (List.mem_cons_of_mem _ hother) hmem
    · exact htag (List.mem_singleton.mp hmem ▸ hother)

/-- A leg is removed because of its negative reply. -/
theorem Open.removeOtherLeg (h : Open leg refused added) (id : String) :
    Open (leg.removeOtherLeg id)
      (if id ∈ leg.other_legs then refused ++ [id] else refused) added := by
  constructor
  · by_cases hid : id ∈ leg.other_legs
    · rw [if_pos hid]
      exact h.ledger.refuse hid
    · rw [if_neg hid]
      have hall : leg.other_legs.filter (· ≠ id) = leg.other_legs := by
        apply List.filter_eq_self.mpr
        intro tag htag
        have hne : tag ≠ id := fun heq => hid (heq ▸ htag)
        simpa using hne
      show Ledger (leg.other_legs.filter (· ≠ id)) _ _ _
      rw [hall]
      exact h.ledger
  · show (if leg.other_id = id then "" else leg.other_id) = "" ∨
      (if leg.other_id = id then "" else leg.other_id) ∈ leg.other_legs.filter (· ≠ id)
    by_cases heq : leg.other_id = id
    · rw [if_pos heq]
      exact .inl rfl
    · rw [if_neg heq]
      exact h.peer.imp_right fun hmem => List.mem_filter.mpr ⟨hmem, by simpa using heq⟩

/-- After `setOther` the sender of the reply is the peer. -/
theorem Open.setOther {leg' : CallLeg} {id : String} (h : Open leg refused added) (hid : id ≠ "")
    (hset : leg.setOther id = some leg') :
    leg'.other_id = id ∧ id ∈ leg'.other_legs ∧ leg'.call_status = leg.call_status ∧
      Open leg' refused added := by
  unfold CallLeg.setOther at hset
  split_ifs at hset with hsame hmem
  · cases hset
    have hpeer : id ∈ leg.other_legs := hsame ▸ h.peer.resolve_left (hsame ▸ hid)
    exact ⟨hsame, hpeer, rfl, h⟩
  · cases hset
    exact ⟨rfl, hmem, rfl, h.ledger, .inr hmem⟩

/-- A reply that may stop the call, when it cannot be relayed. -/
theorem Open.relay (h : Open leg refused added) (htags : "" ∉ added)
    (hstatus : leg.call_status ≠ .Connected) (fails : Bool) :
    (if fails then leg.stopCall else leg).call_status ≠ .Connected ∧
      Open (if fails then leg.stopCall else leg) refused added := by
  cases fails with
  | true => exact h.stopCall htags
  | false => exact ⟨hstatus, h⟩

/-- Provisional replies leave the call open. -/
theorem Open.b2bInitial1xx {reply : AmSipReply} (h : Open leg refused added)
    (htags : "" ∉ added) (hstatus : leg.call_status ≠ .Connected) (hid : reply.from_tag ≠ "")
    (forward relayed : Bool) :
    (leg.b2bInitial1xx reply forward relayed).call_status ≠ .Connected ∧
      Open (leg.b2bInitial1xx reply forward relayed) refused added := by
  unfold CallLeg.b2bInitial1xx
  split
  · exact ⟨hstatus, h⟩
  split
  · exact ⟨hstatus, h⟩
  split
  · split
    · exact ⟨hstatus, h⟩
    next leg' hset =>
      obtain ⟨-, -, -, hopen⟩ := h.setOther hid hset
      have hringing : Open { leg' with call_status := .Ringing } refused added :=
        ⟨hopen.ledger, hopen.peer⟩
      exact hringing.relay htags (by simp) _
  split
  · exact h.relay htags hstatus _
  · exact ⟨hstatus, h⟩

/-- A positive reply connects the call to its sender, or is ignored, or stops the call. -/
theorem Open.b2bInitial2xx {reply : AmSipReply} (h : Open leg refused added)
    (hstatus : leg.call_status ≠ .Connected) (hid : reply.from_tag ≠ "")
    (forward relayed : Bool) :
    let leg' := leg.b2bInitial2xx reply forward relayed
    (leg'.call_status ≠ .Connected ∧ Open leg' refused added) ∨
      (leg'.call_status = .Connected ∧ leg'.other_id = reply.from_tag ∧ leg'.other_legs = [] ∧
        Ledger [leg'.other_id] leg'.terminated refused added) := by
  intro leg'
  cases hset : leg.setOther reply.from_tag with
  | none =>
    left
    have hsame : leg' = leg := by simp [leg', CallLeg.b2bInitial2xx, hset]
    rw [hsame]
    exact ⟨hstatus, h⟩
  | some peer =>
    obtain ⟨hother, hmem, -, hopen⟩ := h.setOther hid hset
    have hledger := ledger_terminateNotConnectedLegs hopen (hother ▸ hmem)
    cases hfails : forward && !relayed with
    | true =>
      left
      have hleg : leg' = CallLeg.stopCall { peer.terminateNotConnectedLegs with other_legs := [] } := by
        simp only [leg', CallLeg.b2bInitial2xx, hset, hfails, if_true]
      rw [hleg]
      exact open_stopCall_connected (by
        show peer.other_id ≠ ""
        rw [hother]
        exact hid) rfl hledger
    | false =>
      right
      have hleg : leg' = { peer.terminateNotConnectedLegs with
          other_legs := [], call_status := .Connected } := by
        simp [leg', CallLeg.b2bInitial2xx, hset, hfails]
      rw [hleg]
      exact ⟨rfl, hother, rfl, hledger⟩

/-- A negative reply leaves the call open. -/
theorem Open.b2bInitialErr {callees : List String} (h : Open leg refused added)
    (reply : AmSipReply) (throws : Bool) (hstatus : leg.call_status ≠ .Connected)
    (htags : "" ∉ added ++ callees) (hnodup : callees.Nodup)
    (hnew : ∀ tag ∈ callees, tag ∉ added) :
    let leg' := (CallLeg.b2bInitialErr (refusedHook callees throws) leg () reply).1
    let refused' := if reply.from_tag ∈ leg.other_legs then refused ++ [reply.from_tag] else refused
    leg'.call_status ≠ .Connected ∧ Open leg' refused' (added ++ callees) := by
  intro leg' refused'
  have hremoved := h.removeOtherLeg reply.from_tag
  by_cases hringing : leg.call_status = .Ringing ∧ leg.other_id ≠ reply.from_tag
  · have hleg : leg' = callees.foldl CallLeg.addNewCallee (leg.removeOtherLeg reply.from_tag) := by
      simp only [leg', CallLeg.b2bInitialErr, if_pos hringing, refusedHook]
    rw [hleg]
    exact hremoved.addNewCallees hstatus hnodup hnew
  · have hreset : Open { leg.removeOtherLeg reply.from_tag with call_status := .NoReply }
        refused' added := ⟨hremoved.ledger, hremoved.peer⟩
    obtain ⟨hstatus', hadded⟩ := hreset.addNewCallees (by simp) hnodup hnew
    cases throws with
    | true =>
      have hleg : leg' = callees.foldl CallLeg.addNewCallee
          { leg.removeOtherLeg reply.from_tag with call_status := .NoReply } := by
        simp only [leg', CallLeg.b2bInitialErr, if_neg hringing, refusedHook]
      rw [hleg]
      exact ⟨hstatus', hadded⟩
    | false =>
      generalize hcallees : callees.foldl CallLeg.addNewCallee
        { leg.removeOtherLeg reply.from_tag with call_status := .NoReply } = leg₁ at hstatus' hadded
      by_cases hnone : leg₁.other_legs = []
      · have hleg : leg' = CallLeg.stopCall
            { leg₁ with sip_relay_only := false, call_status := .Disconnected } := by
          simp [leg', CallLeg.b2bInitialErr, if_neg hringing, refusedHook, hcallees, hnone]
        rw [hleg]
        exact Open.stopCall ⟨hadded.ledger, hadded.peer⟩ htags
      · have hleg : leg' = { leg₁ with sip_relay_only := false } := by
          simp [leg', CallLeg.b2bInitialErr, if_neg hringing, refusedHook, hcallees, hnone]
        rw [hleg]
        exact ⟨hstatus', hadded.ledger, hadded.peer⟩

end Steps

/-! ### Runs -/

section Runs

variable {s s' : ForkingLeg}

theorem newTags_iff {tags : List String} : s.newTags tags = true ↔
    tags.Nodup ∧ ∀ tag ∈ tags, tag ≠ "" ∧ tag ∉ s.added := by
  simp [newTags]

/-- An open call stays within the invariant. -/
theorem inv_of_open {s : ForkingLeg} (htags : "" ∉ s.added)
    (hstatus : s.leg.call_status ≠ .Connected) (hopen : Open s.leg s.refused s.added) : Inv s :=
  ⟨htags, fun _ => hopen, fun h => absurd h hstatus⟩

theorem tags_append {tags : List String} (htags : "" ∉ s.added) (hnew : s.newTags tags = true) :
    "" ∉ s.added ++ tags := by
  intro hmem
  rcases List.mem_append.mp hmem with hmem | hmem
  · exact htags hmem
  · exact ((newTags_iff.mp hnew).2 "" hmem).1 rfl

theorem inv_positive (h : Inv s) (hstatus : s.leg.call_status ≠ .Connected) (reply : AmSipReply)
    (hid : reply.from_tag ≠ "") (forward relayed : Bool) :
    Inv (s.positive reply forward relayed) := by
  have hopen := h.open_legs hstatus
  by_cases hcode : reply.code < 200
  · have hleg : (s.positive reply forward relayed).leg =
        s.leg.b2bInitial1xx reply forward relayed := by
      simp [positive, CallLeg.onPositiveReply, hcode]
    obtain ⟨hstatus', hopen'⟩ := hopen.b2bInitial1xx h.tags hstatus hid forward relayed
    exact inv_of_open h.tags (by rw [hleg]; exact hstatus') (by rw [hleg]; exact hopen')
  · have hleg : (s.positive reply forward relayed).leg =
        s.leg.b2bInitial2xx reply forward relayed := by
      simp [positive, CallLeg.onPositiveReply, hcode]
    rcases hopen.b2bInitial2xx hstatus hid forward relayed with
      ⟨hstatus', hopen'⟩ | ⟨hstatus', hother, hnone, hledger⟩
    · exact inv_of_open h.tags (by rw [hleg]; exact hstatus') (by rw [hleg]; exact hopen')
    · refine ⟨h.tags, fun hne => absurd (hleg ▸ hstatus') hne, ?_⟩
      intro _
      have haccepted : (s.positive reply forward relayed).accepted = some reply.from_tag := by
        show (if (s.positive reply forward relayed).leg.call_status = .Connected then _ else _) = _
        rw [hleg, if_pos hstatus']
      rw [haccepted, hleg]
      exact ⟨by rw [hother], hnone, hledger⟩

theorem inv_next {l : Label} (h : Inv s) (hnext : next s l = some s') : Inv s' := by
  unfold next at hnext
  split at hnext
  · cases hnext
  next hstatus =>
    have hopen := h.open_legs hstatus
    cases l with
    | addNewCallee tag =>
      simp only [Option.ite_none_right_eq_some, Option.some.injEq] at hnext
      obtain ⟨hnew, rfl⟩ := hnext
      have hfresh := (newTags_iff.mp hnew).2 tag List.mem_cons_self
      exact inv_of_open (tags_append h.tags hnew) (addNewCallee_status s.leg tag hstatus)
        (hopen.addNewCallee hfresh.2)
    | reply reply forward relayed callees throws =>
      simp only [Option.ite_none_right_eq_some] at hnext
      obtain ⟨⟨-, hid, -⟩, hnext⟩ := hnext
      split_ifs at hnext with hcode hnew
      · cases hnext
        exact inv_positive h hstatus reply hid forward relayed
      · cases hnext
        obtain ⟨hnodup, hfresh⟩ := newTags_iff.mp hnew
        obtain ⟨hstatus', hopen'⟩ := hopen.b2bInitialErr reply throws hstatus
          (tags_append h.tags hnew) hnodup fun tag htag => (hfresh tag htag).2
        exact inv_of_open (tags_append h.tags hnew) hstatus' hopen'

theorem inv_of_reachable (h : system.Reachable s) : Inv s := by
  refine System.invariant_under Inv ?_ ?_ h
  · rintro s ⟨allow, ringing_sent, rfl⟩
    refine inv_of_open (by simp) (by simp) ⟨?_, .inl rfl⟩
    constructor <;> simp
  · intro s l s' hs _ hnext
    exact inv_next hs hnext

/-- In every run: when the call gets connected, it is connected to the leg whose 2xx was
    accepted, one of those added, and every other leg was refused by its own reply or
    told to terminate exactly once.  And a 1xx or 2xx of a leg that is neither the peer
    nor among the other legs changes nothing but `ringing_sent`. -/
theorem fork_safe (h : system.Reachable s) :
    (s.leg.call_status = .Connected → Connected s) ∧
      ∀ reply forward relayed callees throws s', reply.code < 300 →
        reply.from_tag ≠ s.leg.other_id → reply.from_tag ∉ s.leg.other_legs →
        next s (.reply reply forward relayed callees throws) = some s' →
          ∃ ringing_sent, s' = { s with ringing_sent } := by
  refine ⟨(inv_of_reachable h).safe, ?_⟩
  intro reply forward relayed callees throws s' hcode hother hlegs hnext
  unfold next at hnext
  split at hnext
  · cases hnext
  next hstatus =>
    simp only [Option.ite_none_right_eq_some, if_pos hcode, Option.some.injEq] at hnext
    obtain ⟨-, rfl⟩ := hnext
    unfold positive
    rw [CallLeg.onPositiveReply_unknown (Ne.symm hother) hlegs]
    simp only [if_neg hstatus]
    exact ⟨_, rfl⟩

/-- Two callees; the second one answers while the first one rings. -/
theorem fork_safe_second_answers :
    ∃ s, system.Reachable s ∧ s.leg.call_status = .Connected ∧ Connected s := by
  obtain ⟨s, hs, hconnected⟩ := System.exists_reachableUnder_of_any system (fun _ _ => True)
    (fun s => decide (s.leg.call_status = .Connected)) { leg := {}, ringing_sent := some false }
    [.addNewCallee "b1", .addNewCallee "b2",
      .reply { code := 180, from_tag := "b1", to_tag := "t" } true true [] false,
      .reply { code := 200, from_tag := "b2", to_tag := "t" } true true [] false]
    ⟨false, some false, rfl⟩ (by decide)
  exact ⟨s, hs, of_decide_eq_true hconnected, (fork_safe hs).1 (of_decide_eq_true hconnected)⟩

/-- A 180 of a leg that is not known any more sets `ringing_sent`. -/
theorem not_ignored_unknown_ringing :
    ¬ ∀ s, system.Reachable s → ∀ reply forward relayed callees throws s', reply.code < 300 →
      reply.from_tag ≠ s.leg.other_id → reply.from_tag ∉ s.leg.other_legs →
      next s (.reply reply forward relayed callees throws) = some s' → s' = s := by
  intro h
  obtain ⟨s, hs, heq⟩ := System.exists_reachableUnder_of_any system (fun _ _ => True)
    (fun s => decide (s =
      { leg := { call_status := .NoReply, other_legs := ["b1"] }
        ringing_sent := some false
        added := ["b1"] })) { leg := {}, ringing_sent := some false }
    [.addNewCallee "b1"] ⟨false, some false, rfl⟩ (by decide)
  obtain rfl := of_decide_eq_true heq
  have hsame := h _ hs { code := 180, from_tag := "b0", to_tag := "t" } true true [] false _
    (by decide) (by decide) (by decide) rfl
  revert hsame
  decide

end Runs

end ForkingLeg

end Yeti.Call
