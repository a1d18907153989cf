import Yeti.Call.AorResolving
import Yeti.Call.Refusal
import Yeti.Call.Timers
import Yeti.Framework.System

/-! # Hunting: an A leg from routing to its end

    The A leg of a routed call: `processResourcesAndSdp` finds the first profile that can
    be dialled, a refused B leg makes `onBLegRefused` look for the next one, a positive
    reply connects the call, and anything may end it.  Replies come from any leg in any
    order, also from legs that were given up.

    Each step has the values that the code reads from elsewhere: the tables, the answers of
    the resource control, the tag of a new leg.  CDR updates by other functions of the call
    legs are steps of their own.
-/

open LTS

namespace Yeti.Call

/-! ### Routing -/

/-- What `processResourcesAndSdp` depends on. -/
structure RoutingEnv extends RefusalEnv where
  /-- The exception for a profile whose resources could not be had. -/
  response : SqlCallProfile → String × Int

/-- What comes of a profile that has its resources. -/
inductive RoutingResult where
  /-- An exception before the time limit is noted. -/
  | sdpException (reason : String) (code : Int)
  /-- An exception of `onRoutingReady`; `dialing` tells whether `m_state` was set. -/
  | exception (dialing : Bool) (reason : String) (code : Int)
  | callee (tag : String)
  deriving DecidableEq, Repr

namespace SbcState

/-- The handler of an exception in `processResourcesAndSdp`. -/
def caught (env : RoutingEnv) (s : SbcState) (reason : String) (code : Int) : SbcState :=
  { s with call_ctx := s.call_ctx.map fun c => { c with
      cdr := c.cdr.update_internal_reason .DisconnectByTS reason code env.now } }

/-- The loop of `processResourcesAndSdp` from the current profile. -/
def processLoop (env : RoutingEnv) :
    Nat → SbcState → RefusalCtx → SqlCallProfile → SbcState × Option SqlCallProfile
  | 0, s, c, profile => (s.fail env.toRefusalEnv c profile, none)
  | fuel + 1, s, c, profile =>
    let refuse (c : RefusalCtx) :=
      ((s.fail env.toRefusalEnv c profile).caught env (env.response profile).1
        (env.response profile).2, none)
    match env.get profile with
    | .RES_CTL_OK handler =>
      let profile := { profile with resource_handler := handler.getD profile.resource_handler }
      ({ s with
          call_ctx := some { c with profiles := c.profiles.set c.current_profile profile }
          handlers := s.handlers ++ handler.toList }, some profile)
    | .RES_CTL_ERROR | .RES_CTL_REJECT => refuse c
    | .RES_CTL_NEXT =>
      match c.getNextProfile env.tr true false with
      | (c, none) => ({ s with call_ctx := some c }.caught env "no more profiles" 503, none)
      | (c, some next) =>
        if next.disconnect_code_id ≠ 0 then refuse c
        -- `check_and_refuse` only refuses a profile with a `disconnect_code_id`
        else processLoop env fuel s c next

/-- The profile that `onBLegRefused` saves the time limit of. -/
def huntedProfile (env : RefusalEnv) (s : SbcState) (c : RefusalCtx) (reply : AmSipReply) :
    Option SqlCallProfile :=
  if env.tables.stop_hunting reply.code
      ((c.getCurrentProfile.map env.bleg_override_id).getD 0) then none
  else
    match c.getCurrentProfile with
    | none => none
    | some profile =>
      if c.initial_invite = false then none
      else ((s.put profile.resource_handler).chooseNextProfile env c).2

/-- `SBCCallLeg::onBLegRefused` on the timers. -/
def refusedTimers {T : Type} [IntCast T] (env : RefusalEnv) (leg : CallLeg) (s : SbcState)
    (reply : AmSipReply) (timers : CallTimers T) : CallTimers T :=
  if leg.other_id ≠ "" ∧ reply.from_tag ≠ leg.other_id then timers
  else
    let timers :=
      (timers.removeTimer YETI_FAKE_RINGING_TIMER).clearCallTimer YETI_CALL_DURATION_TIMER
    match s.call_ctx with
    | none => timers
    | some c =>
      let c := { c with cdr := recordRefusal env c reply }
      match huntedProfile env { s with call_ctx := some c } c reply with
      | none => timers
      | some profile => timers.saveTimeLimit profile.time_limit

end SbcState

/-! ### State -/

/-- A B leg that was dialled for the profile at `position`. -/
structure DialledLeg where
  tag : String
  position : Nat
  profile : SqlCallProfile
  deriving DecidableEq, Repr

/-- The A leg of a routed call. -/
structure HuntingLeg (T : Type) where
  leg : CallLeg := {}
  sbc : SbcState
  timers : CallTimers T := {}
  /-- `processResourcesAndSdp` was called. -/
  processed : Bool := false
  dialled : List DialledLeg := []
  /-- `call_ctx->cdr` is null: the CDR was given to `write_cdr`. -/
  cdr_posted : Bool := false
  /-- The CDRs of a call whose context is deleted. -/
  posted : List Cdr := []

/-- The context with which routing ends: that of the first profile, or what the answer to
    the AoR lookup has made of it. -/
inductive Routed (up : UriParser) (tr : CodesTranslator) : CallCtx → Prop where
  | first {profiles : List SqlCallProfile} {ctx : CallCtx} :
      CallCtx.getFirstProfile profiles = some ctx → Routed up tr ctx
  | resolved {profiles : List SqlCallProfile} {ctx ctx' : CallCtx} (success : Bool)
      (data : AmArg) : CallCtx.getFirstProfile profiles = some ctx →
      onRedisReply up tr ctx success data = some (.proceed ctx') → Routed up tr ctx'

/-- The context of a call that started at `start_time`. -/
def RefusalCtx.ofCallCtx (ctx : CallCtx) (start_time : Nat) : RefusalCtx where
  profiles := ctx.profiles
  current_profile := ctx.current_profile
  cdr := { toCdr := ctx.cdr, start_time := start_time, end_time := start_time }
  written := ctx.written

namespace HuntingLeg

variable {T : Type} [IntCast T]

/-- The tags of the legs that were dialled. -/
def tags (s : HuntingLeg T) : List String := s.dialled.map (·.tag)

/-- `AmSession::getNewId` gives a new tag. -/
def newTag (s : HuntingLeg T) (tag : String) : Bool := tag ≠ "" && tag ∉ s.tags

/-- A leg with this tag was dialled for the current profile, if it is among the B legs
    now. -/
def noteDialled (s : HuntingLeg T) (tag : String) : HuntingLeg T :=
  match s.sbc.call_ctx with
  | none => s
  | some c =>
    match c.getCurrentProfile with
    | none => s
    | some profile =>
      if tag ∈ s.leg.other_legs then
        { s with dialled := s.dialled ++ [⟨tag, c.current_profile, profile⟩] }
      else s

/-- The CDR records causes and times, unless it was given to `write_cdr`. -/
def updateCdr (s : HuntingLeg T) (es : List CdrEvent) : HuntingLeg T :=
  { s with sbc := { s.sbc with call_ctx := s.sbc.call_ctx.map fun c =>
    if s.cdr_posted then c
    else { c with cdr := { c.cdr with
      toTimedCdr := es.foldl (fun cdr e => e.apply cdr) c.cdr.toTimedCdr } } } }

/-- `stopCall` of the A leg. -/
def stopCall (s : HuntingLeg T) : HuntingLeg T := { s with leg := s.leg.stopCall }

/-- `terminateLeg` of the A leg. -/
def terminateLeg (s : HuntingLeg T) : HuntingLeg T :=
  { s with leg := { s.leg with stopped := true } }

/-! ### Steps -/

/-- The leg is dialled by `onRoutingReady`, unless an exception is thrown. -/
def route (env : RoutingEnv) (s : HuntingLeg T) (profile : SqlCallProfile) :
    RoutingResult → HuntingLeg T
  | .sdpException reason code =>
    { s with sbc := (s.sbc.put profile.resource_handler).caught env reason code }.terminateLeg
  | .exception dialing reason code =>
    let timers := s.timers.saveTimeLimit profile.time_limit
    { s with
      sbc := (s.sbc.put profile.resource_handler).caught env reason code
      timers := if dialing then { timers with m_state := .BB_Dialing } else timers }.terminateLeg
  | .callee tag =>
    { s with
      timers := { s.timers.saveTimeLimit profile.time_limit with m_state := .BB_Dialing }
      leg := s.leg.addNewCallee tag }.noteDialled tag

/-- `SBCCallLeg::processResourcesAndSdp` with `onRoutingReady`. -/
def processResourcesAndSdp (env : RoutingEnv) (s : HuntingLeg T) (c : RefusalCtx)
    (profile : SqlCallProfile) (result : RoutingResult) : HuntingLeg T :=
  match s.sbc.processLoop env c.profiles.length c profile with
  | (sbc, none) => { s with sbc := sbc, processed := true }.terminateLeg
  | (sbc, some profile) => { s with sbc := sbc, processed := true }.route env profile result

/-- `SBCCallLeg::onCallConnected`. -/
def onCallConnected (s : HuntingLeg T) (now : Nat) : HuntingLeg T :=
  { s.updateCdr [.update_with_action .Connect now] with timers := s.timers.onCallConnected }

/-- `CallLeg::onInitialReply` for a provisional or positive reply; a leg that may become
    the peer connects the call, also when its reply cannot be relayed. -/
def positive (env : RefusalEnv) (s : HuntingLeg T) (reply : AmSipReply) (forward relayed : Bool) :
    HuntingLeg T :=
  let s' :=
    if 200 ≤ reply.code ∧ (s.leg.setOther reply.from_tag).isSome then s.onCallConnected env.now
    else s
  { s' with leg := s.leg.onPositiveReply reply forward relayed }

/-- `CallLeg::b2bInitialErr` with the hook of `SBCCallLeg`. -/
def negative (env : RefusalEnv) (s : HuntingLeg T) (reply : AmSipReply) : HuntingLeg T :=
  let legs :=
    if s.leg.call_status = .Ringing ∧ s.leg.other_id ≠ reply.from_tag then
      s.leg.removeOtherLeg reply.from_tag
    else { s.leg.removeOtherLeg reply.from_tag with call_status := .NoReply }
  let r := CallLeg.b2bInitialErr (SbcState.onBLegRefused env) s.leg s.sbc reply
  { s with
    leg := r.1
    sbc := r.2
    timers := SbcState.refusedTimers env legs s.sbc reply s.timers }

/-- `connect` is what comes of the next leg, if `onBLegRefused` dials one. -/
def refused (env : RefusalEnv) (s : HuntingLeg T) (reply : AmSipReply) (connect : ConnectResult) :
    HuntingLeg T :=
  let s' := s.negative { env with connectCalleeRequest := fun _ => connect } reply
  match connect with
  | .callee tag => s'.noteDialled tag
  | .exception | .internalException _ _ => s'

/-- The tag of the leg is new, if there is one. -/
def newLeg (s : HuntingLeg T) : ConnectResult → Bool
  | .callee tag => s.newTag tag
  | .exception | .internalException _ _ => true

/-- The tag of the first leg is new, if there is one. -/
def newFirstLeg (s : HuntingLeg T) : RoutingResult → Bool
  | .callee tag => s.newTag tag
  | .sdpException _ _ | .exception _ _ _ => true

/-- A timer of the A leg fires: `SBCCallLeg::onTimerEvent`, then `SBCCallLeg::process`. -/
def timeout (s : HuntingLeg T) (timer_id : Int) : HuntingLeg T :=
  let s' := { s with timers := s.timers.removeTimer timer_id }
  let handled := timer_id ∈
    [YETI_RINGING_TIMEOUT_TIMER, YETI_RADIUS_INTERIM_TIMER, YETI_FAKE_RINGING_TIMER]
  if s.sbc.call_ctx.isSome && !s.cdr_posted && handled then s'
  else if SBC_TIMER_ID_CALL_TIMERS_START ≤ timer_id ∧ timer_id ≤ SBC_TIMER_ID_CALL_TIMERS_END then
    s'.stopCall
  else s'

/-- `SBCCallLeg::onOtherBye`. -/
def onOtherBye (s : HuntingLeg T) (now : Nat) : HuntingLeg T :=
  -- not to be taken for a successful call
  let early := decide (s.leg.call_status ≠ .Connected)
  let s := if early then s.updateCdr
      [.update_internal_reason .DisconnectByDST "EarlyBye" 500 now,
        .update_aleg_reason "Request terminated" 487]
    else s
  { s with
    leg := { s.leg with call_status := .Disconnected, stopped := true }
    sbc := { s.sbc with call_ctx := s.sbc.call_ctx.map fun c =>
      if early && !s.cdr_posted then
        { c with written := CallCtx.write_cdr c.written c.cdr.toCdr true }
      else c }
    cdr_posted := s.cdr_posted || s.sbc.call_ctx.isSome && early }

/-- `SBCCallLeg::onBye`. -/
def onBye (s : HuntingLeg T) (now : Nat) : HuntingLeg T :=
  if s.sbc.call_ctx.isNone then s
  else
    let s := s.updateCdr <|
      if s.leg.call_status ≠ .Connected then
        [.update_internal_reason .DisconnectByORG "EarlyBye" 500 now,
          .update_aleg_reason "EarlyBye" 200, .update_bleg_reason "Cancel" 487]
      else
        [.update_internal_reason .DisconnectByORG "Bye" 200 now, .update_bleg_reason "Bye" 200]
    { s with leg := { s.leg.terminateNotConnectedLegs with
        call_status := .Disconnected
        stopped := true } }

/-- `SBCCallLeg::onBeforeDestroy` of the last leg that holds the context. -/
def onBeforeDestroy (s : HuntingLeg T) (c : RefusalCtx) : HuntingLeg T :=
  let sbc := match c.getCurrentProfile with
    | some profile => s.sbc.put profile.resource_handler
    | none => s.sbc
  { s with
    sbc := { sbc with call_ctx := none }
    posted :=
      if s.cdr_posted then c.written else CallCtx.write_cdr c.written c.cdr.toCdr true
    cdr_posted := true }

inductive Label (T : Type) where
  | processResourcesAndSdp (env : RoutingEnv) (result : RoutingResult)
  /-- A reply to the initial INVITE; `connect` is what comes of the next leg, if
      `onBLegRefused` dials one. -/
  | reply (env : RefusalEnv) (reply : AmSipReply) (forward relayed : Bool)
      (connect : ConnectResult)
  /-- An `SBCCallTimerEvent`. -/
  | callTimer (timer_action : TimerAction) (timer_id : Int) (timeout : T)
  /-- The timers that the leg sets and removes by itself: interim accounting and fake
      ringing. -/
  | ownTimer (fake_ringing : Bool) (timeout : Option T)
  | timeout (timer_id : Int)
  /-- A function of a leg records a cause or a time in the CDR. -/
  | cdr (e : CdrEvent)
  | stopCall
  | onBye (now : Nat)
  | onOtherBye (now : Nat)
  | onStop
  | onBeforeDestroy

/-- One step. -/
def next (s : HuntingLeg T) : Label T → Option (HuntingLeg T)
  | .processResourcesAndSdp env result =>
    if s.processed || s.leg.stopped || s.leg.call_status ≠ .Disconnected then none
    else
      s.sbc.call_ctx.bind fun c => c.getCurrentProfile.bind fun profile =>
        if s.newFirstLeg result then some (s.processResourcesAndSdp env c profile result)
        else none
  | .reply env reply forward relayed connect =>
    -- `onB2BReply` takes it as initial only in these states
    if (s.leg.call_status = .NoReply ∨ s.leg.call_status = .Ringing) ∧
        reply.from_tag ≠ "" ∧ 100 ≤ reply.code then
      if reply.code < 300 then some (s.positive env reply forward relayed)
      else if s.newLeg connect then some (s.refused env reply connect)
      else none
    else none
  | .callTimer timer_action timer_id timeout =>
    some { s with timers := s.timers.onCallTimerEvent timer_action timer_id timeout }
  | .ownTimer fake_ringing timeout =>
    let timer := if fake_ringing then YETI_FAKE_RINGING_TIMER else YETI_RADIUS_INTERIM_TIMER
    some { s with timers := match timeout with
      | some timeout => s.timers.setTimer timer timeout
      | none => s.timers.removeTimer timer }
  | .timeout timer_id => if (s.timers.running timer_id).isSome then some (s.timeout timer_id) else none
  | .cdr e => some (s.updateCdr [e])
  | .stopCall => some s.stopCall
  | .onBye now => some (s.onBye now)
  | .onOtherBye now => some (s.onOtherBye now)
  | .onStop => some { s with timers := s.timers.onStop }
  | .onBeforeDestroy => s.sbc.call_ctx.map s.onBeforeDestroy

variable (T) in
/-- All runs of the A leg of a routed call. -/
def system (up : UriParser) (tr : CodesTranslator) : System (HuntingLeg T) (Label T) where
  init s := ∃ ctx start_time allow_1xx_without_to_tag, Routed up tr ctx ∧
    s = { sbc := { call_ctx := some (.ofCallCtx ctx start_time) }
          leg := { allow_1xx_without_to_tag } }
  next := next

/-! ### A sample -/

/-- The tables of the sample: every refusal goes on with the hunting. -/
def sampleEnv : RoutingEnv where
  now := 100
  tr := ⟨[], [], false, 0⟩
  tables := { code2pref := [(487, false)] }
  bleg_override_id _ := 0
  get _ := .RES_CTL_OK none
  failure _ := ("", 0)
  connectCalleeRequest _ := .exception
  response _ := ("", 500)

/-- The destinations of the sample, with their time limits. -/
def sampleProfiles : List SqlCallProfile :=
  [{ ruri := "sip:1", time_limit := 60 }, { ruri := "sip:2", time_limit := 90 },
    { ruri := "sip:3" }]

/-- The call of the sample. -/
def sampleCall : HuntingLeg Int where
  sbc := { call_ctx := some (.ofCallCtx
    { profiles := sampleProfiles, current_profile := 0,
      cdr := .ofProfile { ruri := "sip:1", time_limit := 60 } } 1) }

theorem sampleCall_init : (system Int noParser sampleEnv.tr).init sampleCall := by
  have hfirst : CallCtx.getFirstProfile sampleProfiles = some
      { profiles := sampleProfiles, current_profile := 0,
        cdr := .ofProfile { ruri := "sip:1", time_limit := 60 } } := rfl
  exact ⟨_, 1, false, .first hfirst, rfl⟩

/-- The first leg refuses, and the second one rings and answers. -/
def sampleRun : List (Label Int) :=
  [.processResourcesAndSdp sampleEnv (.callee "b1"),
    .reply sampleEnv.toRefusalEnv { code := 487, from_tag := "b1" } true true (.callee "b2"),
    .reply sampleEnv.toRefusalEnv { code := 180, from_tag := "b2", to_tag := "x" } true true
      .exception,
    .reply sampleEnv.toRefusalEnv { code := 200, from_tag := "b2", to_tag := "x" } true true
      .exception]

end HuntingLeg

end Yeti.Call
