import Mathlib.Data.List.Basic

/-! # Call profiles, CDRs and code translation

    The data that routing and failover work on: `SqlCallProfile`, `Cdr` and
    `CodesTranslator::translate_db_code`.  Of the many fields of a profile and a
    CDR only those are kept that the modelled functions read or write; the times of
    a CDR are left out, and so is everything that is copied from the request.
-/

namespace Yeti.Call

/-! ### Profiles -/

/-- `struct SqlCallProfile`. -/
structure SqlCallProfile where
  ruri : String
  route : String := ""
  disconnect_code_id : Nat := 0
  /-- Set when the profile is to be passed over. -/
  skip_code_id : Nat := 0
  aleg_override_id : Int := 0
  registered_aor_id : Int := 0
  registered_aor_mode_id : Int := 1
  trusted_hdrs_gw : Bool := false
  dyn_fields : String := ""
  time_limit : Int := 0
  dump_level_id : Int := 0
  resources : String := ""
  resource_handler : String := ""
  deriving DecidableEq, Repr

/-- `SqlCallProfile::copy`. -/
def SqlCallProfile.copy (p : SqlCallProfile) : SqlCallProfile := p

/-! ### Code translation -/

/-- `CodesTranslator::icode`. -/
structure Icode where
  internal_code : Int
  response_code : Int
  internal_reason : String
  response_reason : String
  store_cdr : Bool
  silently_drop : Bool
  deriving DecidableEq, Repr

/-- What a code is translated to; `write_cdr` is the returned flag. -/
structure Translation where
  write_cdr : Bool
  internal_code : Int
  internal_reason : String
  response_code : Int
  response_reason : String
  deriving DecidableEq, Repr

/-- The translation tables of `class CodesTranslator`. -/
structure CodesTranslator where
  icode2resp : List (Nat × Icode)
  icode2resp_overrides : List (Int × List (Nat × Icode))
  /-- `config.early_100_trying`. -/
  early_100_trying : Bool
  /-- A constant of the SIP stack. -/
  NO_REPLY_DISCONNECT_CODE : Int
  deriving DecidableEq, Repr

namespace CodesTranslator

/-- `CodesTranslator::apply_internal_code_translation`. -/
def apply_internal_code_translation (tr : CodesTranslator) (c : Icode) : Translation where
  write_cdr := c.store_cdr
  internal_code := c.internal_code
  internal_reason := c.internal_reason
  response_code :=
    if c.silently_drop && !tr.early_100_trying then tr.NO_REPLY_DISCONNECT_CODE
    else c.response_code
  response_reason := if c.silently_drop && !tr.early_100_trying then "" else c.response_reason

/-- `CodesTranslator::translate_db_code`. -/
def translate_db_code (tr : CodesTranslator) (code : Nat) (override_id : Int) : Translation :=
  let override :=
    if override_id ≠ 0 then (tr.icode2resp_overrides.lookup override_id).bind (·.lookup code)
    else none
  match override.or (tr.icode2resp.lookup code) with
  | some c => tr.apply_internal_code_translation c
  -- unknown internal codes are written
  | none => ⟨true, 500, "Internal code " ++ toString code, 500, "Server Internal Error"⟩

end CodesTranslator

/-! ### CDRs -/

/-- `enum DisconnectInitiator`. -/
inductive DisconnectInitiator where
  | DisconnectByDB
  | DisconnectByTS
  | DisconnectByDST
  | DisconnectByORG
  | DisconnectUndefined
  deriving DecidableEq, Repr

/-- `struct Cdr`. -/
structure Cdr where
  writed : Bool := false
  is_last : Bool := false
  attempt_num : Int := 1
  trusted_hdrs_gw : Bool := false
  outbound_proxy : String := ""
  ruri : String := ""
  dyn_fields : String := ""
  time_limit : Int := 0
  dump_level_id : Int := 0
  resources : String := ""
  disconnect_initiator : DisconnectInitiator := .DisconnectUndefined
  disconnect_initiator_writed : Bool := false
  disconnect_internal_reason : String := "Unhandled sequence"
  disconnect_internal_code : Int := 0
  aleg_reason_writed : Bool := false
  disconnect_rewrited_reason : String := ""
  disconnect_rewrited_code : Int := 0
  deriving DecidableEq, Repr

namespace Cdr

/-- `Cdr::update_sql`. -/
def update_sql (cdr : Cdr) (p : SqlCallProfile) : Cdr :=
  { cdr with
    trusted_hdrs_gw := p.trusted_hdrs_gw
    outbound_proxy := p.route
    ruri := p.ruri
    dyn_fields := p.dyn_fields
    time_limit := p.time_limit
    dump_level_id := p.dump_level_id
    resources := p.resources }

/-- `Cdr::Cdr(const SqlCallProfile &)`. -/
def ofProfile (p : SqlCallProfile) : Cdr := ({} : Cdr).update_sql p

/-- `Cdr::Cdr(const Cdr &, const SqlCallProfile &)`, the CDR of the next attempt. -/
def next (cdr : Cdr) (p : SqlCallProfile) : Cdr :=
  { ofProfile p with
    attempt_num := cdr.attempt_num + 1
    -- the dump level stays that of the first attempt
    dump_level_id := cdr.dump_level_id }

/-- `Cdr::update_internal_reason`. -/
def update_internal_reason (cdr : Cdr) (initiator : DisconnectInitiator) (reason : String)
    (code : Int) : Cdr :=
  if cdr.writed then cdr
  else
    let cdr :=
      if cdr.disconnect_initiator_writed then cdr
      else
        { cdr with
          disconnect_initiator := initiator
          disconnect_internal_reason := reason
          disconnect_internal_code := code
          disconnect_initiator_writed := true }
    if cdr.aleg_reason_writed then cdr
    else { cdr with disconnect_rewrited_reason := reason, disconnect_rewrited_code := code }

/-- `Cdr::update_aleg_reason`. -/
def update_aleg_reason (cdr : Cdr) (reason : String) (code : Int) : Cdr :=
  if cdr.writed then cdr
  else
    { cdr with
      disconnect_rewrited_reason := reason
      disconnect_rewrited_code := code
      aleg_reason_writed := true }

end Cdr

end Yeti.Call
