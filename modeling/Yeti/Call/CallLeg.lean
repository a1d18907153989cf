import Mathlib.Data.List.Basic

/-! # Call legs and their peers

    Model of `CallLeg.cpp` for an A leg that looks for its peer: the B legs it has
    created and not given up (`other_legs`), the one it talks to (`other_id`, empty
    if there is none), and the handling of replies to the initial INVITE.

    Media sessions, timers and the SIP messages to the caller are left out; whether a
    reply could be relayed to the caller is an argument.  Of `AmB2BSession`, which
    comes with the SIP stack, `terminateOtherLeg` and `clear_other` are used: the
    other leg is told to terminate, and forgotten.
-/

namespace Yeti.Call

/-- `CallLeg::CallStatus`. -/
inductive CallStatus where
  | Disconnected
  | NoReply
  | Ringing
  | Connected
  deriving DecidableEq, Repr

/-- `AmSipReply`, as far as call legs and CDRs read it. -/
structure AmSipReply where
  code : Nat
  reason : String := ""
  from_tag : String
  to_tag : String := ""
  local_reply : Bool := false
  transport_id : Int := 0
  remote_ip : String := ""
  remote_port : Nat := 0
  actual_ip : String := ""
  actual_port : Nat := 0
  /-- The values of the headers `Server` and `User-Agent`. -/
  versions : List String := []
  /-- The headers for the CDR, serialised. -/
  cdr_headers : String := ""
  has_sdp : Bool := false
  deriving DecidableEq, Repr

/-- `class CallLeg`. -/
structure CallLeg where
  call_status : CallStatus := .Disconnected
  other_id : String := ""
  /-- The keys of `other_legs`. -/
  other_legs : List String := []
  sip_relay_only : Bool := false
  allow_1xx_without_to_tag : Bool := false
  /-- The legs that were sent a `B2BTerminateLeg` event. -/
  terminated : List String := []
  /-- `terminateLeg` was called. -/
  stopped : Bool := false
  deriving DecidableEq, Repr

namespace CallLeg

/-! ### Other legs -/

/-- `CallLeg::terminateNotConnectedLegs`. -/
def terminateNotConnectedLegs (leg : CallLeg) : CallLeg :=
  { leg with
    terminated := leg.terminated ++ leg.other_legs.filter (· ≠ leg.other_id)
    other_legs := leg.other_legs.filter (· = leg.other_id) }

/-- `CallLeg::removeOtherLeg`. -/
def removeOtherLeg (leg : CallLeg) (id : String) : CallLeg :=
  { leg with
    other_id := if leg.other_id = id then "" else leg.other_id
    other_legs := leg.other_legs.filter (· ≠ id) }

/-- `CallLeg::clear_other`. -/
def clear_other (leg : CallLeg) : CallLeg :=
  { leg.removeOtherLeg leg.other_id with other_id := "" }

/-- `AmB2BSession::terminateOtherLeg`. -/
def sendTerminate (leg : CallLeg) : CallLeg :=
  if leg.other_id = "" then leg.clear_other
  else { leg with terminated := leg.terminated ++ [leg.other_id] }.clear_other

/-- `CallLeg::terminateOtherLeg`. -/
def terminateOtherLeg (leg : CallLeg) : CallLeg :=
  let leg := if leg.call_status ≠ .Connected then leg.terminateNotConnectedLegs else leg
  let leg := leg.sendTerminate
  { leg with
    other_legs := leg.other_legs.filter (· ≠ leg.other_id)
    call_status := .Disconnected }

/-- `CallLeg::stopCall`. -/
def stopCall (leg : CallLeg) : CallLeg :=
  { ({ leg with call_status := .Disconnected }.terminateNotConnectedLegs.terminateOtherLeg) with
    stopped := true }

/-- `CallLeg::addNewCallee`, for a callee with the given local tag. -/
def addNewCallee (leg : CallLeg) (tag : String) : CallLeg :=
  { leg with
    other_legs := if tag ∈ leg.other_legs then leg.other_legs else leg.other_legs ++ [tag]
    call_status := if leg.call_status = .Disconnected then .NoReply else leg.call_status }

/-- `CallLeg::setOther`; `none` stands for the result `false`. -/
def setOther (leg : CallLeg) (id : String) : Option CallLeg :=
  if leg.other_id = id then some leg
  else if id ∈ leg.other_legs then some { leg with other_id := id, sip_relay_only := true }
  else none

/-! ### Replies to the initial INVITE -/

/-- `CallLeg::b2bInitial1xx`; `relayed` tells whether `relaySipReply` succeeds. -/
def b2bInitial1xx (leg : CallLeg) (reply : AmSipReply) (forward relayed : Bool) : CallLeg :=
  if reply.code = 100 then leg
  else if reply.to_tag = "" ∧ leg.allow_1xx_without_to_tag = false then leg
  else if leg.call_status = .NoReply then
    match leg.setOther reply.from_tag with
    | none => leg
    | some leg =>
      let leg := { leg with call_status := .Ringing }
      if forward && !relayed then leg.stopCall else leg
  else if leg.other_id = reply.from_tag then
    if forward && !relayed then leg.stopCall else leg
  else
    -- from another B leg than the previous 1xx reply
    leg

/-- `CallLeg::b2bInitial2xx`. -/
def b2bInitial2xx (leg : CallLeg) (reply : AmSipReply) (forward relayed : Bool) : CallLeg :=
  match leg.setOther reply.from_tag with
  | none => leg
  | some leg =>
    let leg := { leg.terminateNotConnectedLegs with other_legs := [] }
    if forward && !relayed then leg.stopCall else { leg with call_status := .Connected }

/-- The hook `onBLegRefused`, on the leg and what else it works on; the flag tells that
    it has thrown an exception. -/
abbrev RefusedHook (σ : Type) := CallLeg → σ → AmSipReply → (CallLeg × σ) × Bool

/-- `CallLeg::b2bInitialErr`. -/
def b2bInitialErr {σ : Type} (onBLegRefused : RefusedHook σ) (leg : CallLeg) (s : σ)
    (reply : AmSipReply) : CallLeg × σ :=
  if leg.call_status = .Ringing ∧ leg.other_id ≠ reply.from_tag then
    -- it is not from the current peer; new B legs may be added
    (onBLegRefused (leg.removeOtherLeg reply.from_tag) s reply).1
  else
    match onBLegRefused { leg.removeOtherLeg reply.from_tag with call_status := .NoReply } s reply with
    | (r, true) => r
    | ((leg, s), false) =>
      let leg := { leg with sip_relay_only := false }
      -- other B legs may still answer
      if leg.other_legs ≠ [] then (leg, s)
      else ({ leg with call_status := .Disconnected }.stopCall, s)

/-- `CallLeg::onInitialReply`, without the part for negative replies. -/
def onPositiveReply (leg : CallLeg) (reply : AmSipReply) (forward relayed : Bool) : CallLeg :=
  if reply.code < 200 then leg.b2bInitial1xx reply forward relayed
  else leg.b2bInitial2xx reply forward relayed

/-! ### Replies that are ignored -/

variable {leg : CallLeg} {reply : AmSipReply}

theorem setOther_unknown {id : String} (hother : leg.other_id ≠ id) (hlegs : id ∉ leg.other_legs) :
    leg.setOther id = none := by
  unfold setOther
  rw [if_neg hother, if_neg hlegs]

/-- A positive reply of a leg that is neither the peer nor may become it. -/
theorem onPositiveReply_unknown (hother : leg.other_id ≠ reply.from_tag)
    (hlegs : reply.from_tag ∉ leg.other_legs) (forward relayed : Bool) :
    leg.onPositiveReply reply forward relayed = leg := by
  have hunknown := setOther_unknown hother hlegs
  unfold onPositiveReply b2bInitial1xx b2bInitial2xx
  rw [hunknown]
  split_ifs <;> rfl

end CallLeg

end Yeti.Call
