import Yeti.Call.CallCtx
import Yeti.Call.CallLeg
import Yeti.Call.Causes

/-! # Refused B legs

    Model of `SBCCallLeg::onBLegRefused` and `chooseNextProfile`: the CDR records the
    refusal, and unless the reply stops the hunting, the resources of the profile are
    put back and the next profile is dialled.

    An A leg that waits for replies always has a CDR.  Timers, the resource named in
    the CDR when a limit is reached and the flag that suppresses a CDR are left out.
-/

namespace Yeti.Call

/-! ### Codes -/

/-- `CodesTranslator::trans`. -/
structure Trans where
  rewrite_code : Nat
  pass_reason_to_originator : Bool
  rewrite_reason : String
  deriving DecidableEq, Repr

/-- The tables of `CodesTranslator` for replies of destinations. -/
structure ReplyTables where
  code2trans : List (Nat × Trans) := []
  code2trans_overrides : List (Int × List (Nat × Trans)) := []
  /-- `is_stop_hunting` of the codes. -/
  code2pref : List (Nat × Bool) := []
  code2prefs_overrides : List (Int × List (Nat × Bool)) := []
  deriving DecidableEq, Repr

namespace ReplyTables

/-- The entry for a code: that of the override, else the global one. -/
def find {α : Type} (table : List (Nat × α)) (overrides : List (Int × List (Nat × α)))
    (code : Nat) (override_id : Int) : Option α :=
  let override :=
    if override_id ≠ 0 then (overrides.lookup override_id).bind (·.lookup code) else none
  override.or (table.lookup code)

/-- `CodesTranslator::rewrite_response`. -/
def rewrite_response (t : ReplyTables) (code : Nat) (reason : String) (override_id : Int) :
    Nat × String :=
  match find t.code2trans t.code2trans_overrides code override_id with
  | some t => (t.rewrite_code, if t.pass_reason_to_originator then reason else t.rewrite_reason)
  | none => (code, reason)

/-- `CodesTranslator::stop_hunting`. -/
def stop_hunting (t : ReplyTables) (code : Nat) (override_id : Int) : Bool :=
  (find t.code2pref t.code2prefs_overrides code override_id).getD true

end ReplyTables

/-! ### The CDR -/

/-- `struct Cdr` with what it takes from the replies of the B leg. -/
structure ReplyCdr extends TimedCdr where
  bleg_reply_headers : String := ""
  legB_transport_protocol_id : Int := 0
  legB_remote_ip : String := ""
  legB_remote_port : Nat := 0
  legB_local_ip : String := ""
  legB_local_port : Nat := 0
  /-- A set. -/
  bleg_versions : List String := []
  sip_10x_time : Nat := 0
  sip_18x_time : Nat := 0
  sip_early_media_present : Bool := false
  deriving DecidableEq, Repr

/-- `remove_ipv6_reference_inplace`. -/
def remove_ipv6_reference (s : String) : String :=
  let chars := s.toList
  if chars.length < 4 then s
  else if chars.head? = some '[' ∧ chars.getLast? = some ']' then
    String.ofList chars.dropLast.tail
  else s

namespace ReplyCdr

/-- What a reply from the network tells about the B leg. -/
def update_legB (cdr : ReplyCdr) (reply : AmSipReply) : ReplyCdr :=
  { cdr with
    legB_transport_protocol_id := reply.transport_id
    legB_remote_ip := reply.remote_ip
    legB_remote_port := reply.remote_port
    legB_local_ip := remove_ipv6_reference reply.actual_ip
    legB_local_port := reply.actual_port
    bleg_versions := reply.versions.foldl (fun vs v => if v ∈ vs then vs else vs ++ [v])
      cdr.bleg_versions }

/-- `Cdr::update_with_sip_reply`, at the time `now`. -/
def update_with_sip_reply (cdr : ReplyCdr) (reply : AmSipReply) (now : Nat) : ReplyCdr :=
  if cdr.writed then cdr
  else
    let cdr :=
      if reply.code = 200 ∧ cdr.trusted_hdrs_gw then
        { cdr with bleg_reply_headers := reply.cdr_headers }
      else cdr
    -- a local reply
    if reply.remote_port = 0 then cdr
    else
      let cdr := cdr.update_legB reply
      if 100 ≤ reply.code ∧ reply.code < 110 then
        if cdr.sip_10x_time = 0 then { cdr with sip_10x_time := now } else cdr
      else if 180 ≤ reply.code ∧ reply.code < 190 then
        let cdr := if cdr.sip_18x_time = 0 then { cdr with sip_18x_time := now } else cdr
        if reply.has_sdp then { cdr with sip_early_media_present := true } else cdr
      else cdr

/-- `Cdr::update_bleg_reason`. -/
def update_bleg_reason (cdr : ReplyCdr) (reason : String) (code : Int) : ReplyCdr :=
  { cdr with toTimedCdr := cdr.toTimedCdr.update_bleg_reason reason code }

/-- `Cdr::update_internal_reason`. -/
def update_internal_reason (cdr : ReplyCdr) (initiator : DisconnectInitiator) (reason : String)
    (code : Int) (now : Nat) : ReplyCdr :=
  { cdr with toTimedCdr := cdr.toTimedCdr.update_internal_reason initiator reason code now }

/-- `Cdr::update_aleg_reason`. -/
def update_aleg_reason (cdr : ReplyCdr) (reason : String) (code : Int) : ReplyCdr :=
  { cdr with toTimedCdr := cdr.toTimedCdr.update_aleg_reason reason code }

end ReplyCdr

/-! ### The call -/

/-- `struct CallCtx` of a call that waits for replies. -/
structure RefusalCtx where
  profiles : List SqlCallProfile
  current_profile : Nat
  cdr : ReplyCdr
  written : List Cdr := []
  /-- `initial_invite` is set. -/
  initial_invite : Bool := true
  deriving DecidableEq, Repr

namespace RefusalCtx

def callCtx (c : RefusalCtx) : CallCtx := ⟨c.profiles, c.current_profile, c.cdr.toCdr, c.written⟩

/-- `CallCtx::getCurrentProfile`. -/
def getCurrentProfile (c : RefusalCtx) : Option SqlCallProfile := c.callCtx.getCurrentProfile

/-- `CallCtx::getNextProfile`.  A new CDR keeps the start time. -/
def getNextProfile (tr : CodesTranslator) (c : RefusalCtx) (early_state resource_failover : Bool) :
    RefusalCtx × Option SqlCallProfile :=
  let (ctx, found) := c.callCtx.getNextProfile tr early_state resource_failover
  let cdr : ReplyCdr :=
    if found.isSome && !early_state && !resource_failover then
      { toCdr := ctx.cdr, start_time := c.cdr.start_time, end_time := c.cdr.start_time }
    else { c.cdr with toCdr := ctx.cdr }
  ({ c with current_profile := ctx.current_profile, cdr := cdr, written := ctx.written }, found)

end RefusalCtx

/-- `ResourceCtlResponse`; a successful `get` may give a handler. -/
inductive ResourceCtlResponse where
  | RES_CTL_OK (handler : Option String)
  | RES_CTL_NEXT
  | RES_CTL_REJECT
  | RES_CTL_ERROR
  deriving DecidableEq, Repr

/-- What comes of `connectCalleeRequest`. -/
inductive ConnectResult where
  | callee (tag : String)
  | exception
  | internalException (internal_reason : String) (internal_code : Int)
  deriving DecidableEq, Repr

/-- What the handling of a refusal depends on. -/
structure RefusalEnv where
  now : Nat
  tr : CodesTranslator
  tables : ReplyTables
  /-- The `bleg_override_id` of the profiles. -/
  bleg_override_id : SqlCallProfile → Int
  /-- `ResourceControl::get` for the resources of a profile. -/
  get : SqlCallProfile → ResourceCtlResponse
  /-- The reason and the code of a profile whose resources could not be had. -/
  failure : SqlCallProfile → String × Int
  connectCalleeRequest : SqlCallProfile → ConnectResult

/-- `SBCCallLeg` and `ResourceControl`, as far as the refusal of a B leg goes. -/
structure SbcState where
  call_ctx : Option RefusalCtx
  /-- The handlers of resources that are held. -/
  handlers : List String := []
  /-- A null pointer was used. -/
  crashed : Bool := false
  deriving DecidableEq, Repr

namespace SbcState

/-- `ResourceControl::put`. -/
def put (s : SbcState) (handler : String) : SbcState :=
  if handler = "" then s else { s with handlers := s.handlers.filter (· ≠ handler) }

/-- The CDR records that no profile could be dialled. -/
def fail (env : RefusalEnv) (s : SbcState) (c : RefusalCtx) (profile : SqlCallProfile) : SbcState :=
  { s with call_ctx := some { c with
      cdr := c.cdr.update_internal_reason .DisconnectByTS (env.failure profile).1
        (env.failure profile).2 env.now } }

/-- `SqlRouter::check_and_refuse` on the CDR, for a profile that refuses the call. -/
def check_and_refuse (env : RefusalEnv) (cdr : ReplyCdr) (profile : SqlCallProfile) : ReplyCdr :=
  let t := env.tr.translate_db_code profile.disconnect_code_id profile.aleg_override_id
  if t.write_cdr then
    (cdr.update_internal_reason .DisconnectByDB t.internal_reason t.internal_code
      env.now).update_aleg_reason t.response_reason t.response_code
  else cdr

/-- The loop of `SBCCallLeg::chooseNextProfile` from the profile that was found. -/
def chooseLoop (env : RefusalEnv) :
    Nat → SbcState → RefusalCtx → SqlCallProfile → SbcState × Option SqlCallProfile
  | 0, s, c, profile => (s.fail env c profile, none)
  | fuel + 1, s, c, profile =>
    if profile.disconnect_code_id ≠ 0 then
      (s.fail env { c with cdr := check_and_refuse env c.cdr profile } profile, none)
    else
      match env.get profile with
      | .RES_CTL_OK handler =>
        let profile := { profile with resource_handler := handler.getD profile.resource_handler }
        ({ s with
            call_ctx := some { c with profiles := c.profiles.set c.current_profile profile }
            handlers := s.handlers ++ handler.toList }, some profile)
      | .RES_CTL_ERROR | .RES_CTL_REJECT => (s.fail env c profile, none)
      | .RES_CTL_NEXT =>
        match c.getNextProfile env.tr false true with
        | (c, none) => (s.fail env c profile, none)
        | (c, some next) =>
          if next.disconnect_code_id ≠ 0 then (s.fail env c profile, none)
          else chooseLoop env fuel s c next

/-- `SBCCallLeg::chooseNextProfile`. -/
def chooseNextProfile (env : RefusalEnv) (s : SbcState) (c : RefusalCtx) :
    SbcState × Option SqlCallProfile :=
  match c.getNextProfile env.tr false false with
  -- pretend that nothing happened
  | (c, none) => ({ s with call_ctx := some c }, none)
  | (c, some profile) => s.chooseLoop env c.profiles.length c profile

/-- The codes for the CDR: those of the destination and those for the caller. -/
def rewritten (env : RefusalEnv) (c : RefusalCtx) (reply : AmSipReply) :
    (Nat × String) × (Nat × String) :=
  let profile := c.getCurrentProfile
  let intermediate := env.tables.rewrite_response reply.code reply.reason
    ((profile.map env.bleg_override_id).getD 0)
  (intermediate, env.tables.rewrite_response intermediate.1 intermediate.2
    ((profile.map (·.aleg_override_id)).getD 0))

/-- What the CDR records of a refusal. -/
def recordRefusal (env : RefusalEnv) (c : RefusalCtx) (reply : AmSipReply) : ReplyCdr :=
  let (intermediate, response) := rewritten env c reply
  let cdr := c.cdr.update_with_sip_reply reply env.now
  let cdr := cdr.update_bleg_reason reply.reason reply.code
  let cdr := cdr.update_internal_reason
    (if reply.local_reply then .DisconnectByTS else .DisconnectByDST)
    intermediate.2 intermediate.1 env.now
  cdr.update_aleg_reason response.2 response.1

/-- The next profile is dialled. -/
def dial (env : RefusalEnv) (leg : CallLeg) (s : SbcState) (profile : SqlCallProfile) :
    (CallLeg × SbcState) × Bool :=
  match env.connectCalleeRequest profile with
  | .callee tag => ((leg.addNewCallee tag, s), false)
  | .exception => ((leg, s), true)
  | .internalException internal_reason internal_code =>
    ((leg, { s with call_ctx := s.call_ctx.map fun c => { c with
      cdr := c.cdr.update_internal_reason .DisconnectByTS internal_reason internal_code env.now } }),
      true)

/-- The second half of `SBCCallLeg::onBLegRefused`: the hunting goes on, or not. -/
def hunt (env : RefusalEnv) (leg : CallLeg) (s : SbcState) (c : RefusalCtx) (reply : AmSipReply) :
    (CallLeg × SbcState) × Bool :=
  if env.tables.stop_hunting reply.code
      ((c.getCurrentProfile.map env.bleg_override_id).getD 0) then ((leg, s), false)
  else
    match c.getCurrentProfile with
    | none => ((leg, { s with crashed := true }), false)
    | some profile =>
      let s := s.put profile.resource_handler
      if c.initial_invite = false then ((leg, s), false)
      else
        match s.chooseNextProfile env c with
        | (s, none) => ((leg, s), false)
        | (s, some profile) => dial env leg s profile

/-- `SBCCallLeg::onBLegRefused` of an A leg. -/
def onBLegRefused (env : RefusalEnv) : CallLeg.RefusedHook SbcState := fun leg s reply =>
  if leg.other_id ≠ "" ∧ reply.from_tag ≠ leg.other_id then ((leg, s), false)
  else
    match s.call_ctx with
    | none => ((leg, s), false)
    | some c =>
      let c := { c with cdr := recordRefusal env c reply }
      hunt env leg { s with call_ctx := some c } c reply

end SbcState

end Yeti.Call
