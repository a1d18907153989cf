import Yeti.Framework.System
import Yeti.Call.CallLeg

/-! # Radius accounting of a call leg

    Model of the callbacks of `CallLeg` and `SBCCallLeg` that begin and end a leg, with
    the accounting requests that `onCallConnected` and `onCallStatusChange` post.

    The call context is shared by the legs of a call: another leg may write its CDR or
    leave it at any time.  `AmB2BSession` comes with the SIP stack; its callbacks are a
    parameter, as the lists of methods of the leg that they call.
-/

open LTS

namespace Yeti.Call

/-- `RadiusRequestEvent`, as far as a leg begins and ends. -/
inductive RadiusRequest where
  | Start
  | End
  deriving DecidableEq, Repr

/-- `struct CallCtx`, as the accounting of a leg reads it. -/
structure AccountingCtx where
  /-- `cdr` is not null. -/
  cdr : Bool
  transfer_intermediate_state : Bool := false
  deriving DecidableEq, Repr

/-- The virtual methods of a leg that `AmB2BSession` calls. -/
inductive LegMethod where
  | terminateOtherLeg
  | terminateLeg
  deriving DecidableEq, Repr

/-- What the callbacks of `AmB2BSession` call. -/
structure AmB2BSession where
  onBye : List LegMethod
  onOtherBye : List LegMethod
  onNoAck : List LegMethod
  onNoPrack : List LegMethod
  onRtpTimeout : List LegMethod
  onSessionTimeout : List LegMethod
  onRemoteDisappeared : List LegMethod
  deriving DecidableEq, Repr

/-- The first part of `CallLeg::terminateOtherLeg`: the other legs are given up. -/
def CallLeg.releaseOthers (leg : CallLeg) : CallLeg :=
  let leg := if leg.call_status ≠ .Connected then leg.terminateNotConnectedLegs else leg
  let leg := leg.sendTerminate
  { leg with other_legs := leg.other_legs.filter (· ≠ leg.other_id) }

/-- `SBCCallLeg`, with the requests it has posted to the radius module. -/
structure RadiusLeg extends CallLeg where
  a_leg : Bool
  /-- The rules of `aleg_radius_acc_rules` or `bleg_radius_acc_rules`. -/
  enable_start_accounting : Bool
  enable_stop_accounting : Bool
  call_ctx : Option AccountingCtx
  posted : List RadiusRequest := []
  deriving DecidableEq, Repr

namespace RadiusLeg

/-- `with_cdr_for_read` finds a CDR. -/
def hasCdr (s : RadiusLeg) : Bool := s.call_ctx.any (·.cdr)

/-! ### The status -/

/-- `SBCCallLeg::onCallStatusChange`, with `radius_accounting_stop_post_event`. -/
def onCallStatusChange (s : RadiusLeg) : RadiusLeg :=
  if s.call_status = .Disconnected ∧ s.hasCdr = true ∧ s.enable_stop_accounting = true then
    { s with posted := s.posted ++ [.End] }
  else s

/-- `CallLeg::updateCallStatus`. -/
def updateCallStatus (s : RadiusLeg) (new_status : CallStatus) : RadiusLeg :=
  { s with call_status := new_status }.onCallStatusChange

/-- `SBCCallLeg::onCallConnected`, with `radius_accounting_start_post_event_set_timers`. -/
def onCallConnected (s : RadiusLeg) : RadiusLeg :=
  match s.call_ctx with
  | none => s
  | some ctx =>
    if ctx.transfer_intermediate_state = false then
      if ctx.cdr = true ∧ s.enable_start_accounting = true then
        { s with posted := s.posted ++ [.Start] }
      else s
    else if s.a_leg = false then
      { s with call_ctx := some { ctx with transfer_intermediate_state := false } }
    else s

/-! ### Giving up -/

/-- `CallLeg::terminateNotConnectedLegs`. -/
def terminateNotConnectedLegs (s : RadiusLeg) : RadiusLeg :=
  { s with toCallLeg := s.toCallLeg.terminateNotConnectedLegs }

/-- `CallLeg::terminateOtherLeg`. -/
def terminateOtherLeg (s : RadiusLeg) : RadiusLeg :=
  let s := { s with toCallLeg := s.toCallLeg.releaseOthers }
  -- no B legs should be remaining
  if s.call_status ≠ .Disconnected then s.updateCallStatus .Disconnected else s

/-- `CallLeg::terminateLeg`. -/
def terminateLeg (s : RadiusLeg) : RadiusLeg := { s with stopped := true }

/-- `CallLeg::stopCall`. -/
def stopCall (s : RadiusLeg) : RadiusLeg :=
  let s := if s.call_status ≠ .Disconnected then s.updateCallStatus .Disconnected else s
  s.terminateNotConnectedLegs.terminateOtherLeg.terminateLeg

/-- What a callback of `AmB2BSession` does to the leg. -/
def callMethods (s : RadiusLeg) (methods : List LegMethod) : RadiusLeg :=
  methods.foldl (fun s m =>
    match m with
    | .terminateOtherLeg => s.terminateOtherLeg
    | .terminateLeg => s.terminateLeg) s

/-! ### Beginning -/

/-- `CallLeg::addNewCallee`. -/
def addNewCallee (s : RadiusLeg) (tag : String) : RadiusLeg :=
  { s with toCallLeg := s.toCallLeg.addNewCallee tag }

/-- `CallLeg::removeOtherLeg`. -/
def removeOtherLeg (s : RadiusLeg) (id : String) : RadiusLeg :=
  { s with toCallLeg := s.toCallLeg.removeOtherLeg id }

/-- `CallLeg::onB2BConnect`; `sent` tells whether the INVITE could be sent. -/
def onB2BConnect (s : RadiusLeg) (sent : Bool) : RadiusLeg :=
  if s.call_status ≠ .Disconnected then s
  else
    let s := { s with sip_relay_only := true }
    if sent then s.updateCallStatus .NoReply else s.stopCall

/-- `SBCCallLeg::onOtherRefer`, as far as it gets; the new callee has the given tag. -/
def onOtherRefer (s : RadiusLeg) (referrer_session tag : String) : RadiusLeg :=
  let s := s.removeOtherLeg referrer_session
  match s.call_ctx with
  | none => s
  | some ctx =>
    { s with call_ctx := some { ctx with transfer_intermediate_state := true } }.addNewCallee tag

/-! ### Replies -/

/-- `CallLeg::b2bInitial1xx`. -/
def b2bInitial1xx (s : RadiusLeg) (reply : AmSipReply) (forward relayed : Bool) : RadiusLeg :=
  if reply.code = 100 then s
  else if reply.to_tag = "" ∧ s.allow_1xx_without_to_tag = false then s
  else if s.call_status = .NoReply then
    match s.setOther reply.from_tag with
    | none => s
    | some leg =>
      let s := { s with toCallLeg := leg }.updateCallStatus .Ringing
      if forward && !relayed then s.stopCall else s
  else if s.other_id = reply.from_tag then
    if forward && !relayed then s.stopCall else s
  else s

/-- `CallLeg::b2bInitial2xx`. -/
def b2bInitial2xx (s : RadiusLeg) (reply : AmSipReply) (forward relayed : Bool) : RadiusLeg :=
  match s.setOther reply.from_tag with
  | none => s
  | some leg =>
    let s := { s with toCallLeg := leg }.terminateNotConnectedLegs
    let s := { s with other_legs := [] }.onCallConnected
    if forward && !relayed then s.stopCall else s.updateCallStatus .Connected

/-- `CallLeg::b2bInitialErr`; `callees` are added by `onBLegRefused`, which may throw. -/
def b2bInitialErr (s : RadiusLeg) (reply : AmSipReply) (callees : List String) (throws : Bool) :
    RadiusLeg :=
  if s.call_status = .Ringing ∧ s.other_id ≠ reply.from_tag then
    callees.foldl addNewCallee (s.removeOtherLeg reply.from_tag)
  else
    let s := (s.removeOtherLeg reply.from_tag).updateCallStatus .NoReply
    let s := callees.foldl addNewCallee s
    if throws then s
    else
      let s := { s with sip_relay_only := false }
      if s.other_legs ≠ [] then s else (s.updateCallStatus .Disconnected).stopCall

/-- `SBCCallLeg::b2bConnectedErr`. -/
def b2bConnectedErr (s : RadiusLeg) : RadiusLeg :=
  if s.a_leg = true ∧ s.call_ctx.all (! ·.transfer_intermediate_state) = true then s
  else s.terminateLeg

/-- `CallLeg::onB2BReply`: a reply to an INVITE that another leg relays.  `initial` tells
    whether it answers the initial INVITE. -/
def onB2BReply (s : RadiusLeg) (reply : AmSipReply) (initial forward relayed : Bool)
    (callees : List String) (throws : Bool) : RadiusLeg :=
  if initial = true ∧ (s.call_status = .NoReply ∨ s.call_status = .Ringing) then
    if reply.code < 200 then s.b2bInitial1xx reply forward relayed
    else if reply.code < 300 then s.b2bInitial2xx reply forward relayed
    else s.b2bInitialErr reply callees throws
  else if s.call_status = .Connected ∧ 200 ≤ reply.code ∧ reply.from_tag ≠ s.other_id then
    if reply.code < 300 then
      { s with toCallLeg := (s.setOther reply.from_tag).getD s.toCallLeg }
    else s.b2bConnectedErr
  else s

/-- `CallLeg::onSipReply`, for replies to the initial INVITE of the leg. -/
def onSipReply (s : RadiusLeg) (reply : AmSipReply) : RadiusLeg :=
  if s.call_status = .NoReply ∨ s.call_status = .Ringing then
    if 100 < reply.code ∧ reply.code < 200 then
      if s.call_status = .NoReply ∧ reply.to_tag ≠ "" then s.updateCallStatus .Ringing else s
    else if 200 ≤ reply.code ∧ reply.code < 300 then
      s.onCallConnected.updateCallStatus .Connected
    else if 300 ≤ reply.code then (s.updateCallStatus .Disconnected).terminateLeg
    else s
  else s

/-! ### Ends -/

/-- `CallLeg::onCancel`. -/
def onCancel (s : RadiusLeg) : RadiusLeg :=
  if s.call_status ≠ .Connected ∧ s.a_leg = true then
    (s.updateCallStatus .Disconnected).stopCall
  else s

/-- The callbacks that disconnect the leg whatever its status is: `onNoAck`, `onNoPrack`,
    `onRtpTimeout`, `onSessionTimeout` and `onOtherBye` of `CallLeg`. -/
def disconnected (s : RadiusLeg) (methods : List LegMethod) : RadiusLeg :=
  (s.updateCallStatus .Disconnected).callMethods methods

/-- `CallLeg::onNoAck`. -/
def onNoAck (session : AmB2BSession) (s : RadiusLeg) : RadiusLeg := s.disconnected session.onNoAck

/-- `CallLeg::onNoPrack`. -/
def onNoPrack (session : AmB2BSession) (s : RadiusLeg) : RadiusLeg :=
  s.disconnected session.onNoPrack

/-- `CallLeg::onSessionTimeout`. -/
def onSessionTimeout (session : AmB2BSession) (s : RadiusLeg) : RadiusLeg :=
  s.disconnected session.onSessionTimeout

/-- `SBCCallLeg::onRtpTimeoutOverride`. -/
def onRtpTimeoutOverride (session : AmB2BSession) (s : RadiusLeg) : RadiusLeg :=
  if s.call_ctx = none ∨ s.call_status ≠ .Connected then s
  else s.disconnected session.onRtpTimeout

/-- `SqlRouter::write_cdr` takes the CDR. -/
def write_cdr (s : RadiusLeg) : RadiusLeg :=
  { s with call_ctx := s.call_ctx.map fun ctx => { ctx with cdr := false } }

/-- `SBCCallLeg::onOtherBye`. -/
def onOtherBye (session : AmB2BSession) (s : RadiusLeg) : RadiusLeg :=
  -- avoid considering of bye in not connected state as succ call
  let s := if s.a_leg = true ∧ s.call_status ≠ .Connected then s.write_cdr else s
  s.disconnected session.onOtherBye

/-- `SBCCallLeg::onRemoteDisappeared`. -/
def onRemoteDisappeared (session : AmB2BSession) (s : RadiusLeg) : RadiusLeg :=
  if s.call_status = .Connected then
    (s.callMethods session.onRemoteDisappeared).updateCallStatus .Disconnected
  else s

/-- `SBCCallLeg::onBye`. -/
def onBye (session : AmB2BSession) (s : RadiusLeg) : RadiusLeg :=
  if s.call_ctx = none then s
  else if s.hasCdr = true ∧ s.call_status ≠ .Connected ∧ s.a_leg = false then s.terminateLeg
  else (s.terminateNotConnectedLegs.updateCallStatus .Disconnected).callMethods session.onBye

/-- `CallLeg::onSipRequest` for a BYE. -/
def onSipBye (session : AmB2BSession) (s : RadiusLeg) : RadiusLeg :=
  if s.call_status = .Disconnected then
    if s.other_id = "" then (s.onBye session).stopCall
    -- seems that we have already sent/received a BYE
    else s
  else s.onBye session

/-! ### Runs -/

inductive Label where
  | bye
  | otherBye
  | cancel
  | rtpTimeout
  | sessionTimeout
  | noAck
  | noPrack
  | remoteDisappeared
  | stopCall
  | terminateLeg
  | sipReply (reply : AmSipReply)
  | b2bReply (reply : AmSipReply) (initial forward relayed : Bool) (callees : List String)
      (throws : Bool)
  | connect (sent : Bool)
  | addNewCallee (tag : String)
  | otherRefer (referrer_session tag : String)
  /-- The call context is set up, changed by another leg, or left. -/
  | context (call_ctx : Option AccountingCtx)
  deriving DecidableEq, Repr

/-- An event is handled. -/
def handle (session : AmB2BSession) (s : RadiusLeg) : Label → RadiusLeg
  | .bye => s.onSipBye session
  | .otherBye => s.onOtherBye session
  | .cancel => s.onCancel
  | .rtpTimeout => s.onRtpTimeoutOverride session
  | .sessionTimeout => s.onSessionTimeout session
  | .noAck => s.onNoAck session
  | .noPrack => s.onNoPrack session
  | .remoteDisappeared => s.onRemoteDisappeared session
  | .stopCall => s.stopCall
  | .terminateLeg => s.terminateLeg
  | .sipReply reply => s.onSipReply reply
  | .b2bReply reply initial forward relayed callees throws =>
    s.onB2BReply reply initial forward relayed callees throws
  | .connect sent => s.onB2BConnect sent
  | .addNewCallee tag => s.addNewCallee tag
  | .otherRefer referrer_session tag => s.onOtherRefer referrer_session tag
  | .context call_ctx => { s with call_ctx := call_ctx }

/-- A new leg that receives events until it is destroyed. -/
def system (session : AmB2BSession) : System RadiusLeg Label where
  init := fun s => s.call_status = .Disconnected ∧ s.stopped = false ∧ s.posted = []
  next := fun s l => some (s.handle session l)

end RadiusLeg

end Yeti.Call
