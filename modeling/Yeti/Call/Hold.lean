import Yeti.Framework.System

/-! # Hold

    Model of the hold state of `CallLeg`.  An offer may put the remote party on hold or
    resume it; one field, `hold`, keeps this in mind until the exchange is completed.
    Offers come from `putOnHold` and `resumeHeld`, whose re-INVITE may have to wait in
    `pending_reinvites`, and from the other leg (`updateLocalSdp`).

    The dialog belongs to the SIP stack and takes one offer at a time.  Each exchange
    knows what its own offer asks for, so that this can be compared with `hold`.  What is
    done to the SDP itself is left out, and so is `Disconnecting`, a status that no call
    leg enters; the media session stays the same.
-/

open LTS

namespace Yeti.Call

/-! ### State -/

/-- The type of `CallLeg::hold`. -/
inductive HoldStatus where
  | HoldRequested
  | ResumeRequested
  | PreserveHoldStatus
  deriving DecidableEq, Repr

/-- What an offer asks for. -/
inductive Intent where
  | hold
  | resume
  | ordinary
  deriving DecidableEq, Repr

/-- The value of `hold` that belongs to the offer. -/
def Intent.status : Intent → HoldStatus
  | .hold => .HoldRequested
  | .resume => .ResumeRequested
  | .ordinary => .PreserveHoldStatus

/-- The functions of the SIP stack that tell SDPs apart. -/
structure SdpCore (Sdp : Type) where
  isHoldRequest : Sdp → Bool
  /-- `sdp.media.empty()` -/
  noMedia : Sdp → Bool

/-- `class CallLeg`, as far as hold is concerned. -/
structure HoldLeg (Sdp : Type) where
  on_hold : Bool := false
  hold : HoldStatus := .PreserveHoldStatus
  non_hold_sdp : Option Sdp := none
  /-- the media session, if there is one, with whether the other leg is muted -/
  media : Option Bool := none
  /-- the re-INVITEs that wait for an `ACK` -/
  pending_reinvites : List (Intent × Sdp) := []
  /-- the exchange in progress; there is none in `OA_None` and `OA_Completed` -/
  exchange : Option Intent := none
  deriving DecidableEq, Repr

/-- What becomes of the re-INVITE of `putOnHold` or `resumeHeld`. -/
inductive Sending where
  /-- an INVITE is pending -/
  | queued
  | sent
  | failed
  /-- the base class throws when it gets the SDP -/
  | thrown
  deriving DecidableEq, Repr

namespace HoldLeg

variable {Sdp : Type} (core : SdpCore Sdp)

/-! ### Offers -/

/-- `CallLeg::adjustOffer`. -/
def adjustOffer (s : HoldLeg Sdp) (sdp : Sdp) : HoldLeg Sdp :=
  -- a local request, or what is taken for one
  if s.hold ≠ .PreserveHoldStatus then s
  else if core.isHoldRequest sdp then { s with hold := .HoldRequested }
  else if s.on_hold then { s with hold := .ResumeRequested }
  else s

/-- `CallLeg::updateLocalSdp`; the SDP is `subsequent` when the transaction had one before. -/
def updateLocalSdp (s : HoldLeg Sdp) (sdp : Sdp) (subsequent : Bool) : HoldLeg Sdp :=
  let s := if s.exchange.isNone && !subsequent then s.adjustOffer core sdp else s
  if s.hold = .PreserveHoldStatus && !s.on_hold then { s with non_hold_sdp := some sdp } else s

/-- `CallLeg::holdAccepted`. -/
def holdAccepted (s : HoldLeg Sdp) : HoldLeg Sdp :=
  { s with on_hold := true, media := s.media.map fun _ => true }

/-- `CallLeg::resumeAccepted`. -/
def resumeAccepted (s : HoldLeg Sdp) : HoldLeg Sdp :=
  { s with on_hold := false, media := s.media.map fun _ => false }

/-- `CallLeg::holdRejected`. -/
def holdRejected (s : HoldLeg Sdp) : HoldLeg Sdp := s

/-- `CallLeg::resumeRejected`. -/
def resumeRejected (s : HoldLeg Sdp) : HoldLeg Sdp := s

/-- `CallLeg::offerRejected`. -/
def offerRejected (s : HoldLeg Sdp) : HoldLeg Sdp :=
  match s.hold with
  | .HoldRequested => s.holdRejected
  | .ResumeRequested => s.resumeRejected
  | .PreserveHoldStatus => s

/-- `SBCCallLeg::onSdpCompleted`. -/
def onSdpCompleted (s : HoldLeg Sdp) (rtp_direct : Bool) : HoldLeg Sdp :=
  if rtp_direct then s
  else
    let s := match s.hold with
      | .HoldRequested => s.holdAccepted
      | .ResumeRequested => s.resumeAccepted
      | .PreserveHoldStatus => s
    { s with hold := .PreserveHoldStatus }

/-! ### Local requests -/

/-- `dlg->reinvite`; the dialog has no exchange in progress then. -/
def startExchange (s : HoldLeg Sdp) (intent : Intent) : Option (HoldLeg Sdp) :=
  if s.exchange.isSome then none else some { s with exchange := some intent }

/-- `queueReinvite`. -/
def queueReinvite (s : HoldLeg Sdp) (intent : Intent) (sdp : Sdp) : HoldLeg Sdp :=
  { s with pending_reinvites := s.pending_reinvites ++ [(intent, sdp)] }

/-- `CallLeg::putOnHold`; `sdp` is that of `createHoldRequest`. -/
def putOnHold (s : HoldLeg Sdp) (sdp : Sdp) (sending : Sending) : Option (HoldLeg Sdp) :=
  if s.on_hold then some s
  else
    let s := { s with hold := .HoldRequested }
    let s := s.updateLocalSdp core sdp false
    match sending with
    | .queued => some (s.queueReinvite .hold sdp)
    | .sent => s.startExchange .hold
    | .failed => some s.offerRejected
    | .thrown => some s

/-- `CallLeg::createResumeRequest`, which throws when there is no SDP without hold. -/
def createResumeRequest (s : HoldLeg Sdp) : Option Sdp :=
  s.non_hold_sdp.filter fun sdp => !core.noMedia sdp

/-- `CallLeg::resumeHeld`, which catches all exceptions. -/
def resumeHeld (s : HoldLeg Sdp) (sending : Sending) : Option (HoldLeg Sdp) :=
  if !s.on_hold then some s
  else
    let s := { s with hold := .ResumeRequested }
    match s.createResumeRequest core with
    | none => some s.offerRejected
    | some sdp =>
      if core.noMedia sdp then some s.offerRejected
      else
        let s := s.updateLocalSdp core sdp false
        match sending with
        | .queued => some (s.queueReinvite .resume sdp)
        | .sent => s.startExchange .resume
        | .failed => some s.offerRejected
        | .thrown => some s.offerRejected

end HoldLeg

/-! ### Steps -/

inductive HoldLabel (Sdp : Type) where
  | putOnHold (sdp : Sdp) (sending : Sending)
  | resumeHeld (sending : Sending)
  /-- an SDP of the other leg -/
  | updateLocalSdp (sdp : Sdp) (subsequent : Bool)
  /-- an offer of the remote party -/
  | offerReceived
  /-- the `ACK` is there, and the oldest re-INVITE that waits is sent -/
  | reinvite
  | onSdpCompleted (rtp_direct : Bool)
  | offerRejected
  deriving DecidableEq, Repr

namespace HoldLeg

variable {Sdp : Type} (core : SdpCore Sdp)

/-- What an offer of the other leg asks for. -/
def intentOf (s : HoldLeg Sdp) (sdp : Sdp) : Intent :=
  if core.isHoldRequest sdp then .hold else if s.on_hold then .resume else .ordinary

def next (s : HoldLeg Sdp) : HoldLabel Sdp → Option (HoldLeg Sdp)
  | .putOnHold sdp sending => s.putOnHold core sdp sending
  | .resumeHeld sending => s.resumeHeld core sending
  | .updateLocalSdp sdp subsequent =>
    -- without an exchange in progress, a new SDP is an offer
    if s.exchange.isNone && !subsequent then
      (s.updateLocalSdp core sdp subsequent).startExchange (s.intentOf core sdp)
    else some (s.updateLocalSdp core sdp subsequent)
  | .offerReceived => s.startExchange .ordinary
  | .reinvite =>
    match s.pending_reinvites with
    | [] => none
    | (intent, sdp) :: pending_reinvites =>
      -- the call is stopped when the INVITE cannot be sent
      ({ s with pending_reinvites }.updateLocalSdp core sdp false).startExchange intent
  | .onSdpCompleted rtp_direct =>
    s.exchange.map fun _ => { s.onSdpCompleted rtp_direct with exchange := none }
  | .offerRejected => s.exchange.map fun _ => { s.offerRejected with exchange := none }

def system : System (HoldLeg Sdp) (HoldLabel Sdp) where
  init s := s.on_hold = false ∧ s.hold = .PreserveHoldStatus ∧ s.non_hold_sdp = none ∧
    s.pending_reinvites = [] ∧ s.exchange = none
  next := next core

/-! ### What is claimed -/

/-- No offer is open any more, and nothing is kept in mind. -/
def Settled (s : HoldLeg Sdp) : Prop :=
  s.exchange = none → s.pending_reinvites = [] → s.hold = .PreserveHoldStatus

/-- What is kept in mind belongs to the exchange in progress, and to no earlier one. -/
def Own (s : HoldLeg Sdp) : Prop := ∀ intent ∈ s.exchange, s.hold = intent.status

/-- What a step may do to `on_hold`. -/
structure Lawful (s : HoldLeg Sdp) (l : HoldLabel Sdp) (s' : HoldLeg Sdp) : Prop where
  raised : s.on_hold = false → s'.on_hold = true →
    (∃ rtp_direct, l = .onSdpCompleted rtp_direct) ∧ s.exchange = some .hold
  cleared : s.on_hold = true → s'.on_hold = false →
    (∃ rtp_direct, l = .onSdpCompleted rtp_direct) ∧ s.exchange = some .resume
  rejected : l = .offerRejected → s'.on_hold = s.on_hold

/-! ### Orderly runs -/

/-- The re-INVITE is sent, or it waits and no exchange with another intent is in progress. -/
def MaySend (s : HoldLeg Sdp) (intent : Intent) : Sending → Prop
  | .queued => ∀ i ∈ s.exchange, i = intent
  | .sent => True
  | .failed => False
  | .thrown => False

/-- The condition on steps. -/
def Orderly (s : HoldLeg Sdp) : HoldLabel Sdp → Prop
  | .putOnHold _ sending => s.on_hold = false → s.MaySend .hold sending
  | .resumeHeld sending => s.on_hold = true →
      (s.createResumeRequest core).isSome = true ∧ s.MaySend .resume sending
  -- no offer of another intent while a re-INVITE waits
  | .updateLocalSdp sdp subsequent => s.exchange = none → subsequent = false →
      s.hold = .PreserveHoldStatus ∨ s.hold = (s.intentOf core sdp).status
  | .offerReceived => s.hold = .PreserveHoldStatus
  -- a re-INVITE whose status was reset meanwhile is recognized by its SDP
  | .reinvite => ∀ p ∈ s.pending_reinvites.head?,
      s.hold = p.1.status ∨ (s.hold = .PreserveHoldStatus ∧ s.intentOf core p.2 = p.1)
  | .onSdpCompleted rtp_direct => rtp_direct = true → s.hold = .PreserveHoldStatus
  | .offerRejected => s.hold = .PreserveHoldStatus

/-! ### Functions -/

variable {core}
variable {s s' : HoldLeg Sdp} {sdp : Sdp} {subsequent : Bool} {intent : Intent}

theorem startExchange_eq_some : s.startExchange intent = some s' ↔
    s.exchange = none ∧ s' = { s with exchange := some intent } := by
  unfold startExchange
  cases s.exchange with
  | none => simp [eq_comm]
  | some i => simp

theorem offerRejected_eq : s.offerRejected = s := by
  unfold offerRejected
  split <;> rfl

/-- While a request is kept in mind, SDPs pass. -/
theorem updateLocalSdp_of_requested (h : s.hold ≠ .PreserveHoldStatus) :
    s.updateLocalSdp core sdp subsequent = s := by
  have hadjust : s.adjustOffer core sdp = s := if_pos h
  simp [updateLocalSdp, hadjust, h]

@[simp] theorem on_hold_updateLocalSdp :
    (s.updateLocalSdp core sdp subsequent).on_hold = s.on_hold := by
  unfold updateLocalSdp adjustOffer
  dsimp only
  split_ifs <;> rfl

@[simp] theorem exchange_updateLocalSdp :
    (s.updateLocalSdp core sdp subsequent).exchange = s.exchange := by
  unfold updateLocalSdp adjustOffer
  dsimp only
  split_ifs <;> rfl

@[simp] theorem pending_reinvites_updateLocalSdp :
    (s.updateLocalSdp core sdp subsequent).pending_reinvites = s.pending_reinvites := by
  unfold updateLocalSdp adjustOffer
  dsimp only
  split_ifs <;> rfl

/-- Storing the SDP does not touch what is kept in mind. -/
theorem hold_updateLocalSdp : (s.updateLocalSdp core sdp subsequent).hold =
    if s.exchange.isNone && !subsequent then (s.adjustOffer core sdp).hold else s.hold := by
  unfold updateLocalSdp
  dsimp only
  split_ifs <;> rfl

/-- An offer is recognized when nothing else is kept in mind. -/
theorem hold_adjustOffer (h : s.hold = .PreserveHoldStatus) :
    (s.adjustOffer core sdp).hold = (s.intentOf core sdp).status := by
  unfold adjustOffer intentOf
  rw [if_neg (not_not.mpr h)]
  split_ifs
  · rfl
  · rfl
  · exact h

/-- After an offer `hold` is what the offer asks for, if nothing else was kept in mind. -/
theorem hold_updateLocalSdp_offer (hidle : s.exchange = none)
    (h : s.hold ≠ .PreserveHoldStatus → s.hold = intent.status)
    (hrecognized : s.hold = .PreserveHoldStatus → s.intentOf core sdp = intent) :
    (s.updateLocalSdp core sdp false).hold = intent.status := by
  by_cases hnone : s.hold = .PreserveHoldStatus
  · rw [hold_updateLocalSdp, if_pos (by simp [hidle]), hold_adjustOffer hnone, hrecognized hnone]
  · rw [updateLocalSdp_of_requested hnone, h hnone]

/-! ### Steps -/

/-- What holds between any two steps of an orderly run. -/
structure Inv (s : HoldLeg Sdp) : Prop where
  settled : s.Settled
  own : s.Own
  queued : ∀ p ∈ s.pending_reinvites, p.1 ≠ .ordinary

/-- An exchange starts, and `hold` is what its offer asks for. -/
theorem Inv.start (hstart : s.startExchange intent = some s')
    (hqueued : ∀ p ∈ s.pending_reinvites, p.1 ≠ .ordinary) (hhold : s.hold = intent.status) :
    s'.Inv ∧ s'.on_hold = s.on_hold := by
  obtain ⟨-, rfl⟩ := startExchange_eq_some.mp hstart
  have hsettled : Settled { s with exchange := some intent } := by
    intro hnone
    cases hnone
  have hown : Own { s with exchange := some intent } := by
    intro i hi
    obtain rfl := Option.some.inj hi
    exact hhold
  exact ⟨⟨hsettled, hown, hqueued⟩, rfl⟩

/-- The offer of a local request waits. -/
theorem Inv.queue (h : s.Inv) (hintent : intent ≠ .ordinary)
    (hsame : ∀ i ∈ s.exchange, i = intent) :
    ({ s with hold := intent.status }.queueReinvite intent sdp).Inv := by
  have hsettled : Settled ({ s with hold := intent.status }.queueReinvite intent sdp) := by
    intro _ hempty
    simp [queueReinvite] at hempty
  have hown : Own ({ s with hold := intent.status }.queueReinvite intent sdp) := by
    intro i hi
    show intent.status = i.status
    rw [hsame i hi]
  refine ⟨hsettled, hown, fun p hp => ?_⟩
  rcases List.mem_append.mp hp with hp | hp
  · exact h.queued p hp
  · rw [List.mem_singleton.mp hp]
    exact hintent

theorem inv_putOnHold {sending : Sending} (h : s.Inv)
    (hok : s.Orderly core (.putOnHold sdp sending))
    (hnext : s.putOnHold core sdp sending = some s') : s'.Inv ∧ s'.on_hold = s.on_hold := by
  unfold putOnHold at hnext
  split_ifs at hnext with hon
  · obtain rfl := Option.some.inj hnext
    exact ⟨h, rfl⟩
  · dsimp only at hnext
    have hrequested : HoldStatus.HoldRequested ≠ .PreserveHoldStatus := by decide
    rw [updateLocalSdp_of_requested hrequested] at hnext
    have hmay := hok (by simpa using hon)
    cases sending with
    | queued =>
      obtain rfl := Option.some.inj hnext
      exact ⟨h.queue (by decide) hmay, rfl⟩
    | sent =>
      have hstart : { s with hold := .HoldRequested }.startExchange .hold = some s' := hnext
      have hstarted := Inv.start hstart h.queued rfl
      exact hstarted
    | failed => exact hmay.elim
    | thrown => exact hmay.elim

theorem inv_resumeHeld {sending : Sending} (h : s.Inv)
    (hok : s.Orderly core (.resumeHeld sending))
    (hnext : s.resumeHeld core sending = some s') : s'.Inv ∧ s'.on_hold = s.on_hold := by
  unfold resumeHeld at hnext
  split_ifs at hnext with hoff
  · obtain rfl := Option.some.inj hnext
    exact ⟨h, rfl⟩
  · obtain ⟨hsome, hmay⟩ := hok (by simpa using hoff)
    obtain ⟨sdp, hsdp⟩ := Option.isSome_iff_exists.mp hsome
    have hmedia : core.noMedia sdp = false := by
      simpa using (Option.filter_eq_some_iff.mp hsdp).2
    have hcreate : createResumeRequest core { s with hold := .ResumeRequested } = some sdp := hsdp
    dsimp only at hnext
    rw [hcreate] at hnext
    dsimp only at hnext
    have hrequested : HoldStatus.ResumeRequested ≠ .PreserveHoldStatus := by decide
    rw [if_neg (by simp [hmedia]), updateLocalSdp_of_requested hrequested] at hnext
    cases sending with
    | queued =>
      obtain rfl := Option.some.inj hnext
      exact ⟨h.queue (by decide) hmay, rfl⟩
    | sent =>
      have hstart : { s with hold := .ResumeRequested }.startExchange .resume = some s' := hnext
      have hstarted := Inv.start hstart h.queued rfl
      exact hstarted
    | failed => exact hmay.elim
    | thrown => exact hmay.elim

theorem inv_updateLocalSdp (h : s.Inv) (hok : s.Orderly core (.updateLocalSdp sdp subsequent))
    (hnext : s.next core (.updateLocalSdp sdp subsequent) = some s') :
    s'.Inv ∧ s'.on_hold = s.on_hold := by
  unfold next at hnext
  dsimp only at hnext
  split_ifs at hnext with hoffer
  · obtain ⟨hidle, rfl⟩ : s.exchange = none ∧ subsequent = false := by simpa using hoffer
    have hhold : (s.updateLocalSdp core sdp false).hold = (s.intentOf core sdp).status := by
      apply hold_updateLocalSdp_offer hidle
      · intro hrequested
        exact (hok hidle rfl).resolve_left hrequested
      · intro _
        rfl
    have hqueued : ∀ p ∈ (s.updateLocalSdp core sdp false).pending_reinvites, p.1 ≠ .ordinary := by
      rw [pending_reinvites_updateLocalSdp]
      exact h.queued
    have hstart := Inv.start hnext hqueued hhold
    rwa [on_hold_updateLocalSdp] at hstart
  · obtain rfl := Option.some.inj hnext
    have hhold : (s.updateLocalSdp core sdp subsequent).hold = s.hold := by
      rw [hold_updateLocalSdp, if_neg hoffer]
    refine ⟨⟨?_, ?_, ?_⟩, on_hold_updateLocalSdp⟩
    · unfold Settled
      rw [exchange_updateLocalSdp, pending_reinvites_updateLocalSdp, hhold]
      exact h.settled
    · unfold Own
      rw [exchange_updateLocalSdp, hhold]
      exact h.own
    · rw [pending_reinvites_updateLocalSdp]
      exact h.queued

theorem inv_reinvite (h : s.Inv) (hok : s.Orderly core .reinvite)
    (hnext : s.next core .reinvite = some s') : s'.Inv ∧ s'.on_hold = s.on_hold := by
  unfold next at hnext
  dsimp only at hnext
  cases hpending : s.pending_reinvites with
  | nil =>
    rw [hpending] at hnext
    cases hnext
  | cons p rest =>
    obtain ⟨intent, sdp⟩ := p
    rw [hpending] at hnext
    dsimp only at hnext
    have hidle : s.exchange = none := by
      have hstart := (startExchange_eq_some.mp hnext).1
      rwa [exchange_updateLocalSdp] at hstart
    have hrequest : intent ≠ .ordinary :=
      h.queued (intent, sdp) (hpending ▸ List.mem_cons_self)
    have hhead : s.hold = intent.status ∨
        (s.hold = .PreserveHoldStatus ∧ s.intentOf core sdp = intent) :=
      hok (intent, sdp) (by rw [hpending]; rfl)
    have hhold : ({ s with pending_reinvites := rest }.updateLocalSdp core sdp false).hold =
        intent.status := by
      refine hold_updateLocalSdp_offer hidle ?_ ?_
      · intro hrequested
        rcases hhead with hsame | ⟨hnone, -⟩
        · exact hsame
        · exact absurd hnone hrequested
      · intro hnone
        rcases hhead with hsame | ⟨-, hintent⟩
        · -- only an ordinary offer keeps nothing in mind
          have hstatus : intent.status = .PreserveHoldStatus := hsame ▸ hnone
          cases intent with
          | hold => cases hstatus
          | resume => cases hstatus
          | ordinary => exact absurd rfl hrequest
        · exact hintent
    have hqueued : ∀ p ∈ ({ s with pending_reinvites := rest }.updateLocalSdp core sdp
        false).pending_reinvites, p.1 ≠ .ordinary := by
      rw [pending_reinvites_updateLocalSdp]
      intro p hp
      exact h.queued p (hpending ▸ List.mem_cons_of_mem _ hp)
    have hstart := Inv.start hnext hqueued hhold
    rwa [on_hold_updateLocalSdp] at hstart

theorem inv_onSdpCompleted {rtp_direct : Bool} (h : s.Inv)
    (hok : s.Orderly core (.onSdpCompleted rtp_direct)) :
    Inv { s.onSdpCompleted rtp_direct with exchange := none } := by
  have hqueue : (s.onSdpCompleted rtp_direct).pending_reinvites = s.pending_reinvites := by
    unfold onSdpCompleted
    cases rtp_direct with
    | true => rfl
    | false => cases s.hold <;> rfl
  have hhold : (s.onSdpCompleted rtp_direct).hold = .PreserveHoldStatus := by
    unfold onSdpCompleted
    cases rtp_direct with
    | true => exact hok rfl
    | false => rfl
  refine ⟨fun _ _ => hhold, fun i hi => ?_, ?_⟩
  · cases hi
  · show ∀ p ∈ (s.onSdpCompleted rtp_direct).pending_reinvites, p.1 ≠ .ordinary
    rw [hqueue]
    exact h.queued

/-- `on_hold` follows the own offer of the exchange. -/
theorem on_hold_onSdpCompleted {rtp_direct : Bool} (h : s.Inv)
    (hok : s.Orderly core (.onSdpCompleted rtp_direct)) {intent : Intent}
    (hexchange : s.exchange = some intent) : (s.onSdpCompleted rtp_direct).on_hold =
      match intent with
      | .hold => true
      | .resume => false
      | .ordinary => s.on_hold := by
  have hown : s.hold = intent.status := h.own intent hexchange
  cases rtp_direct with
  | true =>
    have hnone : intent.status = .PreserveHoldStatus := hown ▸ hok rfl
    cases intent with
    | hold => cases hnone
    | resume => cases hnone
    | ordinary => rfl
  | false =>
    unfold onSdpCompleted
    rw [hown]
    cases intent <;> rfl

theorem inv_next {l : HoldLabel Sdp} (h : s.Inv) (hok : s.Orderly core l)
    (hnext : s.next core l = some s') : s'.Inv := by
  cases l with
  | putOnHold sdp sending => exact (inv_putOnHold h hok hnext).1
  | resumeHeld sending => exact (inv_resumeHeld h hok hnext).1
  | updateLocalSdp sdp subsequent => exact (inv_updateLocalSdp h hok hnext).1
  | offerReceived => exact (Inv.start hnext h.queued hok).1
  | reinvite => exact (inv_reinvite h hok hnext).1
  | onSdpCompleted rtp_direct =>
    obtain ⟨intent, -, rfl⟩ := Option.map_eq_some_iff.mp hnext
    exact inv_onSdpCompleted h hok
  | offerRejected =>
    obtain ⟨intent, -, rfl⟩ := Option.map_eq_some_iff.mp hnext
    rw [offerRejected_eq]
    refine ⟨fun _ _ => hok, fun i hi => ?_, h.queued⟩
    cases hi

/-- A step that keeps `on_hold` is lawful. -/
theorem Lawful.of_eq {l : HoldLabel Sdp} (h : s'.on_hold = s.on_hold) : Lawful s l s' where
  raised hoff hon := by
    rw [h, hoff] at hon
    cases hon
  cleared hon hoff := by
    rw [h, hon] at hoff
    cases hoff
  rejected _ := h

theorem lawful_next {l : HoldLabel Sdp} (h : s.Inv) (hok : s.Orderly core l)
    (hnext : s.next core l = some s') : Lawful s l s' := by
  cases l with
  | putOnHold sdp sending => exact .of_eq (inv_putOnHold h hok hnext).2
  | resumeHeld sending => exact .of_eq (inv_resumeHeld h hok hnext).2
  | updateLocalSdp sdp subsequent => exact .of_eq (inv_updateLocalSdp h hok hnext).2
  | offerReceived => exact .of_eq (Inv.start hnext h.queued hok).2
  | reinvite => exact .of_eq (inv_reinvite h hok hnext).2
  | onSdpCompleted rtp_direct =>
    obtain ⟨intent, hexchange, rfl⟩ := Option.map_eq_some_iff.mp hnext
    have hon : (s.onSdpCompleted rtp_direct).on_hold = _ := on_hold_onSdpCompleted h hok hexchange
    refine ⟨fun hoff hraised => ⟨⟨rtp_direct, rfl⟩, ?_⟩, fun hheld hcleared => ⟨⟨rtp_direct, rfl⟩, ?_⟩,
      fun hlabel => by cases hlabel⟩
    · rw [hon] at hraised
      cases intent with
      | hold => exact hexchange
      | resume => cases hraised
      | ordinary => exact absurd hraised (by simp [hoff])
    · rw [hon] at hcleared
      cases intent with
      | hold => cases hcleared
      | resume => exact hexchange
      | ordinary => exact absurd hcleared (by simp [hheld])
  | offerRejected =>
    obtain ⟨intent, -, rfl⟩ := Option.map_eq_some_iff.mp hnext
    apply Lawful.of_eq
    rw [offerRejected_eq]

theorem inv_of_orderly (hreach : (system core).ReachableUnder (Orderly core) s) : s.Inv := by
  refine System.invariant_under Inv ?_ ?_ hreach
  · rintro s ⟨-, hhold, -, hqueue, hidle⟩
    refine ⟨fun _ _ => hhold, fun i hi => ?_, fun p hp => ?_⟩
    · rw [hidle] at hi
      cases hi
    · rw [hqueue] at hp
      cases hp
  · intro s l s' h hok hnext
    exact inv_next h hok hnext

/-- **Hold**: in orderly runs nothing is kept in mind once no offer is open, an exchange in
    progress has only its own offer in mind, and `on_hold` changes when an exchange is completed
    whose own offer asked for it. -/
theorem lawful_of_orderly (core : SdpCore Sdp) (s : HoldLeg Sdp)
    (hreach : (system core).ReachableUnder (Orderly core) s) :
    s.Settled ∧ s.Own ∧
      ∀ l s', s.Orderly core l → s.next core l = some s' → Lawful s l s' := by
  have hinv := inv_of_orderly hreach
  refine ⟨hinv.settled, hinv.own, ?_⟩
  intro l s' hok hnext
  exact lawful_next hinv hok hnext

section Decidable

instance (s : HoldLeg Sdp) (intent : Intent) : ∀ sending, Decidable (s.MaySend intent sending)
  | .queued => inferInstanceAs (Decidable (∀ i ∈ s.exchange, i = intent))
  | .sent => inferInstanceAs (Decidable True)
  | .failed => inferInstanceAs (Decidable False)
  | .thrown => inferInstanceAs (Decidable False)

instance (s : HoldLeg Sdp) : ∀ l, Decidable (s.Orderly core l)
  | .putOnHold _ _ => inferInstanceAs (Decidable (_ → MaySend _ _ _))
  | .resumeHeld _ => inferInstanceAs (Decidable (_ → _ ∧ MaySend _ _ _))
  | .updateLocalSdp _ _ => inferInstanceAs (Decidable (_ → _ → _ ∨ _))
  | .offerReceived => inferInstanceAs (Decidable (_ = _))
  | .reinvite => inferInstanceAs (Decidable (∀ p ∈ s.pending_reinvites.head?, _ ∨ _ ∧ _))
  | .onSdpCompleted _ => inferInstanceAs (Decidable (_ → _))
  | .offerRejected => inferInstanceAs (Decidable (_ = _))

end Decidable

namespace Example

/-- The only SDPs are one that asks for hold and one that does not. -/
def boolCore : SdpCore Bool := ⟨id, fun _ => false⟩

/-- A leg with a media session. -/
def leg : HoldLeg Bool := { media := some false }

/-- The call is set up, and the other leg asks for hold. -/
def holdAsked : List (HoldLabel Bool) :=
  [.updateLocalSdp false false, .onSdpCompleted false, .updateLocalSdp true false]

end Example

open Example

/-- The remote party is put on hold, and is to be resumed. -/
theorem lawful_of_orderly_resume :
    ∃ s : HoldLeg Bool, (system boolCore).ReachableUnder (Orderly boolCore) s ∧ s.on_hold = true ∧
      s.exchange = some .resume ∧ s.Settled ∧ s.Own ∧
      ∀ l s', s.Orderly boolCore l → s.next boolCore l = some s' → Lawful s l s' := by
  obtain ⟨s, hreach, hstate⟩ := (system boolCore).exists_reachableUnder_of_any (Orderly boolCore)
    (fun s => decide (s.on_hold = true ∧ s.exchange = some .resume)) leg
    (holdAsked ++ [.onSdpCompleted false, .resumeHeld .queued, .reinvite])
    ⟨rfl, rfl, rfl, rfl, rfl⟩ (by decide)
  obtain ⟨hon, hexchange⟩ := of_decide_eq_true hstate
  exact ⟨s, hreach, hon, hexchange, lawful_of_orderly boolCore s hreach⟩

/-- The hold is rejected, and the next re-INVITE, an ordinary one, mutes the call. -/
theorem not_lawful_rejected :
    ¬ ∀ (core : SdpCore Bool) (s : HoldLeg Bool), (system core).Reachable s →
      s.Settled ∧ s.Own ∧ ∀ l s', s.next core l = some s' → Lawful s l s' := by
  intro hall
  obtain ⟨s, hreach, hstate⟩ := (system boolCore).exists_reachableUnder_of_any (fun _ _ => True)
    (fun s => decide (s.on_hold = false ∧ s.exchange = some .ordinary ∧ s.hold = .HoldRequested))
    leg (holdAsked ++ [.offerRejected, .updateLocalSdp false false])
    ⟨rfl, rfl, rfl, rfl, rfl⟩ (by decide)
  obtain ⟨hoff, hexchange, hhold⟩ := of_decide_eq_true hstate
  have hnext : s.next boolCore (.onSdpCompleted false) =
      some { s.onSdpCompleted false with exchange := none } := by
    simp [next, hexchange]
  have hraised : (s.onSdpCompleted false).on_hold = true := by
    simp [onSdpCompleted, hhold, holdAccepted]
  have hown := (((hall boolCore s hreach).2.2 _ _ hnext).raised hoff hraised).2
  rw [hexchange] at hown
  cases hown

end HoldLeg

end Yeti.Call
