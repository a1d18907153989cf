import Yeti.Framework.Assoc
import Yeti.Profile.Fields

/-! # Reading a profile

    Model of `SqlCallProfile::readFromTuple`: the members are set one after the other, each
    from columns of the row and from members that were set before.  The statements stand in
    the order of the source; only the placeholders are set in a loop over the row.

    A profile that cannot be read is dropped by the caller with all others of the answer, so
    `none` stands for it.
-/

namespace Yeti.Profile

open Assignments (run exec)
open Config (AmArg toUnsigned)
open Headers (FilterEntry FilterType tolower)

/-- What the reading takes from the core and from the configuration. -/
structure Core where
  /-- `AmArg::print` -/
  print : AmArg → String
  arg2json : AmArg → String
  /-- `explode(s, delim, keep_empty)` -/
  explode : String → String → Bool → List String
  /-- `str2i`, `none` when it fails -/
  str2i : String → Option Nat
  /-- `AmSubnet::parse` succeeds -/
  parse : String → Bool
  /-- `AmConfig.dump_level` -/
  dump_level : Int
  /-- `AmConfig.dead_rtp_time` -/
  dead_rtp_time : Int
  LOG_RTP_MASK : Int
  LOG_SIP_MASK : Int
  /-- `dns_priority::IPv4_only` -/
  IPv4_only : Int
  /-- `session_timer_fact` is there -/
  session_timer_loaded : Bool
  use_radius : Bool

variable (core : Core)

/-! ### Accessors -/

/-- `DbAmArg_hash_get_bool_any`. -/
def hash_get_bool_any (a : AmArg) (key : String) (default_value : Bool) : Bool :=
  match a.member? key with
  | some (.bool v) => v
  | some (.int v) => v ≠ 0
  | some (.cstr s) => s = "t" || s = "yes" || s = "true" || s = "1"
  | _ => default_value

/-- `DbAmArg_hash_get_str_any`; no caller here gives a default. -/
def hash_get_str_any (a : AmArg) (key : String) : String :=
  match a.member? key with
  | none => ""
  | some .undef => ""
  | some (.cstr s) => s
  | some v => core.print v

/-- `DbAmArg_hash_get_int` with a default for a null and another one for all else. -/
def hash_get_int_failover (a : AmArg) (key : String) (default_value failover_value : Int) : Int :=
  match a.member? key with
  | some (.int v) => v
  | some .undef => default_value
  | _ => failover_value

section Congruence

variable {t t' : AmArg} {key : String} (h : t.member? key = t'.member? key)
include h

theorem hash_get_int_congr (d : Int) : t.hash_get_int key d = t'.hash_get_int key d := by
  unfold AmArg.hash_get_int
  rw [h]

theorem hash_get_bool_congr (d : Bool) : t.hash_get_bool key d = t'.hash_get_bool key d := by
  unfold AmArg.hash_get_bool
  rw [h]

theorem hash_get_str_congr : t.hash_get_str key = t'.hash_get_str key := by
  unfold AmArg.hash_get_str
  rw [h]

theorem hash_get_bool_any_congr (d : Bool) :
    hash_get_bool_any t key d = hash_get_bool_any t' key d := by
  unfold hash_get_bool_any
  rw [h]

theorem hash_get_str_any_congr : hash_get_str_any core t key = hash_get_str_any core t' key := by
  unfold hash_get_str_any
  rw [h]

theorem hash_get_int_failover_congr (d f : Int) :
    hash_get_int_failover t key d f = hash_get_int_failover t' key d f := by
  unfold hash_get_int_failover
  rw [h]

end Congruence

/-- `a & b` is not zero, for values of type `int`. -/
def hasBits (a b : Int) : Bool := BitVec.ofInt 32 a &&& BitVec.ofInt 32 b ≠ 0

/-- `a | b` -/
def orBits (a b : Int) : Int := (BitVec.ofInt 32 a ||| BitVec.ofInt 32 b).toInt

/-! ### Filters, translations and subnets -/

/-- A set of names, in some order. -/
def nameSet (names : List String) : List (List Char) :=
  names.foldl (fun l c => l.insert c.toList) []

def lower (s : String) : String := String.ofList (tolower s.toList)

def FILTER_TYPE_TRANSPARENT : Int := 0
def FILTER_TYPE_WHITELIST : Int := 2

def filterType? : Int → Option FilterType
  | 0 => some .Transparent
  | 1 => some .Blacklist
  | 2 => some .Whitelist
  | _ => none

/-- `SqlCallProfile::readFilter`: the entries that it adds, `none` for an unknown type. -/
def readFilter (t : AmArg) (cfg_key_filter : String) (keep_transparent_entry : Bool)
    (failover_type_id : Int) : Option (List FilterEntry) :=
  match filterType? (hash_get_int_failover t (cfg_key_filter ++ "_type_id")
    FILTER_TYPE_TRANSPARENT failover_type_id) with
  | none => none
  | some filter_type =>
    if !keep_transparent_entry && filter_type = .Transparent then some []
    else
      let elems := core.explode (t.hash_get_str (cfg_key_filter ++ "_list")) "," false
      some [⟨filter_type, nameSet (elems.map lower)⟩]

/-- `SqlCallProfile::readFilterSet`: the entries that it adds. -/
def readFilterSet (t : AmArg) (cfg_key_filter : String) : List FilterEntry :=
  let s := t.hash_get_str cfg_key_filter
  if s = "" then [⟨.Whitelist, []⟩]
  else (core.explode s ";" true).map fun filter =>
    if filter = "" then ⟨.Whitelist, []⟩
    else ⟨.Whitelist, nameSet (core.explode (lower filter) "," false)⟩

/-- An entry such as `603=>488 Not acceptable here`. -/
def readTranslation (entry : String) : Option (Nat × Nat × String) :=
  match core.explode entry "=>" false with
  | [code, to_reply] =>
    match core.str2i code,
      core.str2i (String.ofList (to_reply.toList.takeWhile (· ≠ ' '))) with
    | some from_code, some to_code =>
      some (from_code, to_code, String.ofList ((to_reply.toList.dropWhile (· ≠ ' ')).drop 1))
    | _, _ => none
  | _ => none

/-- The loop over the reply translations, `none` when one is not understood. -/
def readTranslations (m : ReplyTranslationMap) : List String → Option ReplyTranslationMap
  | [] => some m
  | entry :: entries =>
    match readTranslation core entry with
    | none => none
    | some (from_code, reply) => readTranslations (Assoc.set m from_code reply) entries

/-- `readMediaAcl`: the subnets that it adds. -/
def readMediaAcl (t : AmArg) (key : String) : List String :=
  match t.member? key with
  | some (.array v) => v.filterMap fun a =>
    match a with
    | .cstr s => if core.parse s then some s else none
    | _ => none
  | _ => []

/-! ### Statements -/

abbrev Assignment := Assignments.Stmt AmArg.member? Member.Ty

@[simps var]
def readInt (m : IntMember) (column : String) (default_value : Int) : Assignment where
  var := .int m
  reads := [column]
  uses := []
  value _ t := t.hash_get_int column default_value
  locality _ _ _ _ _ ht := hash_get_int_congr (ht column List.mem_cons_self) default_value

@[simps var]
def readUnsigned (m : UnsignedMember) (column : String) (default_value : Int) : Assignment where
  var := .unsigned m
  reads := [column]
  uses := []
  value _ t := toUnsigned (t.hash_get_int column default_value)
  locality _ _ _ _ _ ht := by rw [hash_get_int_congr (ht column List.mem_cons_self)]

@[simps var]
def readBool (m : BoolMember) (column : String) (default_value : Bool) : Assignment where
  var := .bool m
  reads := [column]
  uses := []
  value _ t := t.hash_get_bool column default_value
  locality _ _ _ _ _ ht := hash_get_bool_congr (ht column List.mem_cons_self) default_value

@[simps var]
def readBoolAny (m : BoolMember) (column : String) (default_value : Bool) : Assignment where
  var := .bool m
  reads := [column]
  uses := []
  value _ t := hash_get_bool_any t column default_value
  locality _ _ _ _ _ ht := hash_get_bool_any_congr (ht column List.mem_cons_self) default_value

@[simps var]
def readStr (m : StrMember) (column : String) : Assignment where
  var := .str m
  reads := [column]
  uses := []
  value _ t := t.hash_get_str column
  locality _ _ _ _ _ ht := hash_get_str_congr (ht column List.mem_cons_self)

/-- The entries are added to those that are there. -/
@[simps var reads uses]
def addFilter (m : FilterMember) (cfg_key_filter : String) (keep_transparent_entry : Bool)
    (failover_type_id : Int) : Assignment where
  var := .filters m
  reads := [cfg_key_filter ++ "_type_id", cfg_key_filter ++ "_list"]
  uses := [.filters m]
  value p t := p (.filters m) ++
    (readFilter core t cfg_key_filter keep_transparent_entry failover_type_id).getD []
  ok _ t := (readFilter core t cfg_key_filter keep_transparent_entry failover_type_id).isSome
  locality p p' t t' hp ht := by
    unfold readFilter
    rw [hp _ List.mem_cons_self, hash_get_int_failover_congr (ht _ List.mem_cons_self),
      hash_get_str_congr (ht _ (List.mem_cons_of_mem _ List.mem_cons_self))]

@[simps var reads uses]
def addFilterSet (m : FilterMember) (cfg_key_filter : String) : Assignment where
  var := .filters m
  reads := [cfg_key_filter]
  uses := [.filters m]
  value p t := p (.filters m) ++ readFilterSet core t cfg_key_filter
  locality p p' t t' hp ht := by
    unfold readFilterSet
    rw [hp _ List.mem_cons_self, hash_get_str_congr (ht _ List.mem_cons_self)]

@[simps var]
def addMediaAcl (m : AclMember) (key : String) : Assignment where
  var := .acl m
  reads := [key]
  uses := [.acl m]
  value p t := p (.acl m) ++ readMediaAcl core t key
  locality p p' t t' hp ht := by
    unfold readMediaAcl
    rw [hp _ List.mem_cons_self, ht _ List.mem_cons_self]

def reply_translations_v (t : AmArg) : List String :=
  core.explode (hash_get_str_any core t "reply_translations") "|" false

@[simps var]
def addReplyTranslations : Assignment where
  var := .reply_translations
  reads := ["reply_translations"]
  uses := [.reply_translations]
  value p t := (readTranslations core (p .reply_translations) (reply_translations_v core t)).getD []
  ok p t := (readTranslations core (p .reply_translations) (reply_translations_v core t)).isSome
  locality p p' t t' hp ht := by
    unfold reply_translations_v
    rw [hp _ List.mem_cons_self, hash_get_str_any_congr core (ht _ List.mem_cons_self)]

/-- An entry of `readDynFields`. -/
@[simps var]
def readDynField (name : String) : Assignment where
  var := .dyn_fields name
  reads := [name]
  uses := []
  value _ t := some ((t.member? name).getD .undef)
  locality _ _ _ _ _ ht := by rw [ht name List.mem_cons_self]

/-- The value of a column of the row as a placeholder. -/
def placeholder (t : AmArg) (key : String) (old : Option String) : Option String :=
  match t.member? key with
  | some v => some (core.arg2json v)
  | none => old

@[simps var]
def readPlaceholder (key : String) : Assignment where
  var := .placeholders_hash key
  reads := [key]
  uses := [.placeholders_hash key]
  value p t := placeholder core t key (p (.placeholders_hash key))
  locality p p' t t' hp ht := by
    unfold placeholder
    rw [hp _ List.mem_cons_self, ht _ List.mem_cons_self]

/-! ### Members that are set from others -/

@[simps var reads uses]
def addDumpLevel : Assignment where
  var := .int .dump_level_id
  reads := []
  uses := [.int .dump_level_id]
  value p _ := orBits (p (.int .dump_level_id)) core.dump_level
  locality p p' _ _ hp _ := by rw [hp _ List.mem_cons_self]

@[simps var reads uses]
def readLogFlag (m : BoolMember) (mask : Int) : Assignment where
  var := .bool m
  reads := []
  uses := [.int .dump_level_id]
  value p _ := hasBits (p (.int .dump_level_id)) mask
  locality p p' _ _ hp _ := by rw [hp _ List.mem_cons_self]

/-- The A leg has session timers where the B leg has them, unless the row says otherwise. -/
@[simps var]
def readSstAleg : Assignment where
  var := .bool .sst_aleg_enabled
  reads := ["enable_aleg_session_timer"]
  uses := [.bool .sst_enabled]
  value p t :=
    if (t.member? "enable_aleg_session_timer").isSome then
      hash_get_bool_any t "enable_aleg_session_timer" false
    else p (.bool .sst_enabled)
  locality p p' t t' hp ht := by
    rw [hp _ List.mem_cons_self, ht _ List.mem_cons_self,
      hash_get_bool_any_congr (ht _ List.mem_cons_self)]

@[simps var]
def setParameter (dstcfg : SstCfg) (key value : String) : Assignment where
  var := .sst dstcfg key
  reads := []
  uses := []
  value _ _ := some value
  locality _ _ _ _ _ _ := rfl

/-- The macro `CP_SST_CFGVAR`. -/
@[simps var]
def CP_SST_CFGVAR (cfgpre cfgkey : String) (dstcfg : SstCfg) : Assignment where
  var := .sst dstcfg cfgkey
  reads := [cfgpre ++ cfgkey, cfgkey]
  uses := []
  value _ t :=
    if (t.member? (cfgpre ++ cfgkey)).isSome then
      some (hash_get_str_any core t (cfgpre ++ cfgkey))
    else some (hash_get_str_any core t cfgkey)
  locality _ _ t t' _ ht := by
    have hkey := ht cfgkey (List.mem_cons_of_mem _ List.mem_cons_self)
    rw [ht _ List.mem_cons_self, hash_get_str_any_congr core (ht _ List.mem_cons_self),
      hash_get_str_any_congr core hkey]

def refreshMethod? : Int → Option String
  | 1 => some "INVITE"
  | 2 => some "UPDATE"
  | 3 => some "UPDATE_FALLBACK_INVITE"
  | _ => none

/-- The macro `CP_SESSION_REFRESH_METHOD`, which refuses an unknown method. -/
@[simps var]
def CP_SESSION_REFRESH_METHOD (method_id : IntMember) (dstcfg : SstCfg) : Assignment where
  var := .sst dstcfg "session_refresh_method"
  reads := []
  uses := [.int method_id]
  value p _ := refreshMethod? (p (.int method_id))
  ok p _ := (refreshMethod? (p (.int method_id))).isSome
  locality p p' _ _ hp _ := by rw [hp _ List.mem_cons_self]

/-- `if (m) { a }` -/
def ifSet (m : BoolMember) (a : Assignment) : Assignment := a.guard (.bool m) fun b => b

@[simp] theorem ifSet_var (m : BoolMember) (a : Assignment) : (ifSet m a).var = a.var := rfl

def DTMF_RX_MODE_RFC2833 : Int := 0x1
def DTMF_RX_MODE_INFO : Int := 0x2
def DTMF_RX_MODE_INBAND : Int := 0x4
def DTMF_TX_MODE_RFC2833 : Int := 0x1

def DTMF_RX_MODE_ALL : Int :=
  orBits (orBits DTMF_RX_MODE_RFC2833 DTMF_RX_MODE_INFO) DTMF_RX_MODE_INBAND

def REGISTERED_AOR_MODE_AS_IS : Int := 1

/-- The test for inband DTMF, with the modes of the A leg in both places. -/
def inbandDtmf (p : SqlCallProfile) : Bool :=
  p (.bool .aleg_rtp_filter_inband_dtmf) || p (.bool .bleg_rtp_filter_inband_dtmf) ||
    hasBits (p (.int .aleg_dtmf_recv_modes)) DTMF_RX_MODE_INBAND ||
    hasBits (p (.int .aleg_dtmf_recv_modes)) DTMF_RX_MODE_INBAND

def inbandMembers : List Member :=
  [.bool .aleg_rtp_filter_inband_dtmf, .bool .bleg_rtp_filter_inband_dtmf,
    .int .aleg_dtmf_recv_modes]

theorem inbandDtmf_congr {p p' : SqlCallProfile} (hp : ∀ x ∈ inbandMembers, p x = p' x) :
    inbandDtmf p = inbandDtmf p' := by
  have haleg := hp (.bool .aleg_rtp_filter_inband_dtmf) (by decide)
  have hbleg := hp (.bool .bleg_rtp_filter_inband_dtmf) (by decide)
  have hmodes := hp (.int .aleg_dtmf_recv_modes) (by decide)
  unfold inbandDtmf
  rw [haleg, hbleg, hmodes]

@[simps var]
def setDtmfMode : Assignment where
  var := .dtmf_mode
  reads := []
  uses := inbandMembers
  value p _ := if inbandDtmf p then .DTMFAlways else .DTMFNever
  locality _ _ _ _ hp _ := by rw [inbandDtmf_congr hp]

/-- The flag is set, and never cleared. -/
@[simps var]
def setForceTranscoding : Assignment where
  var := .bool .force_transcoding
  reads := []
  uses := .bool .force_transcoding :: inbandMembers
  value p _ := if inbandDtmf p then true else p (.bool .force_transcoding)
  locality _ _ _ _ hp _ := by
    rw [inbandDtmf_congr fun x hx => hp x (List.mem_cons_of_mem _ hx), hp _ List.mem_cons_self]

/-! ### The reading -/

/-- What routing and refusing profiles have in common. -/
def commonStmts (df : List String) : List Assignment :=
  [readStr .ruri "ruri",
    readStr .outbound_proxy "outbound_proxy",
    readStr .resources "resources",
    readStr .append_headers "append_headers",
    readInt .time_limit "time_limit" 0,
    readInt .aleg_override_id "aleg_policy_id" 0,
    readBool .trusted_hdrs_gw "trusted_hdrs_gw" false,
    readBool .record_audio "record_audio" false,
    readInt .dump_level_id "dump_level_id" 0,
    addDumpLevel core,
    readLogFlag .log_rtp core.LOG_RTP_MASK,
    readLogFlag .log_sip core.LOG_SIP_MASK] ++
  df.map readDynField

/-- The keys of a row. -/
def keys : AmArg → List String
  | .struct fields => fields.map Prod.fst
  | _ => []

def placeholderStmts (t : AmArg) : List Assignment :=
  if core.use_radius then (keys t).map (readPlaceholder core) else []

def dialogStmts : List Assignment :=
  [readStr .from_ "from",
    readStr .to_ "to",
    readStr .callid "call_id",
    readBool .dlg_nat_handling "dlg_nat_handling" false,
    readBool .force_outbound_proxy "force_outbound_proxy" false,
    readStr .outbound_proxy "outbound_proxy",
    readBool .aleg_force_outbound_proxy "aleg_force_outbound_proxy" false,
    readStr .aleg_outbound_proxy "aleg_outbound_proxy",
    readStr .next_hop "next_hop",
    readBool .next_hop_1st_req "next_hop_1st_req" false,
    readBool .patch_ruri_next_hop "patch_ruri_next_hop" false,
    readStr .aleg_next_hop "aleg_next_hop"]

def filterStmts : List Assignment :=
  [addFilterSet core .headerfilter_a2b "transit_headers_a2b",
    addFilterSet core .headerfilter_b2a "transit_headers_b2a",
    addFilter core .sdpfilter "sdp_filter" true FILTER_TYPE_TRANSPARENT,
    addFilter core .sdpalinesfilter "sdp_alines_filter" false FILTER_TYPE_TRANSPARENT,
    addFilter core .bleg_sdpalinesfilter "bleg_sdp_alines_filter" false FILTER_TYPE_WHITELIST]

/-- The session timers; the B leg can have none when their module is not loaded. -/
def sstStmts : List Assignment :=
  [readBoolAny .sst_enabled "enable_session_timer" false,
    readSstAleg] ++
  [{ setParameter .sst_b_cfg "enable_session_timer" "yes" with
      ok := fun _ _ => core.session_timer_loaded },
    CP_SST_CFGVAR core "" "session_expires" .sst_b_cfg,
    CP_SST_CFGVAR core "" "minimum_timer" .sst_b_cfg,
    CP_SST_CFGVAR core "" "maximum_timer" .sst_b_cfg,
    CP_SST_CFGVAR core "" "accept_501_reply" .sst_b_cfg,
    readInt .session_refresh_method_id "session_refresh_method_id" 1,
    CP_SESSION_REFRESH_METHOD .session_refresh_method_id .sst_b_cfg].map (ifSet .sst_enabled) ++
  [setParameter .sst_a_cfg "enable_session_timer" "yes",
    CP_SST_CFGVAR core "aleg_" "session_expires" .sst_a_cfg,
    CP_SST_CFGVAR core "aleg_" "minimum_timer" .sst_a_cfg,
    CP_SST_CFGVAR core "aleg_" "maximum_timer" .sst_a_cfg,
    CP_SST_CFGVAR core "aleg_" "accept_501_reply" .sst_a_cfg,
    readInt .aleg_session_refresh_method_id "aleg_session_refresh_method_id" 1,
    CP_SESSION_REFRESH_METHOD .aleg_session_refresh_method_id .sst_a_cfg].map
      (ifSet .sst_aleg_enabled)

/-- `SqlCallProfile::readCodecPrefs`. -/
def codecStmts : List Assignment :=
  [readInt .static_codecs_aleg_id "aleg_codecs_group_id" 0,
    readInt .static_codecs_bleg_id "bleg_codecs_group_id" 0,
    readBool .aleg_single_codec "aleg_single_codec_in_200ok" false,
    readBool .bleg_single_codec "bleg_single_codec_in_200ok" false,
    readBool .avoid_transcoding "try_avoid_transcoding" false]

def authStmts : List Assignment :=
  [readBool .auth_enabled "enable_auth" false,
    readStr .auth_credentials_user "auth_user",
    readStr .auth_credentials_pwd "auth_pwd",
    readBool .auth_aleg_enabled "enable_aleg_auth" false,
    readStr .auth_aleg_credentials_user "auth_aleg_user",
    readStr .auth_aleg_credentials_pwd "auth_aleg_pwd",
    addReplyTranslations core,
    readStr .append_headers_req "append_headers_req",
    readStr .aleg_append_headers_req "aleg_append_headers_req",
    readStr .aleg_append_headers_reply "aleg_append_headers_reply"]

def relayStmts : List Assignment :=
  [readBool .rtprelay_enabled "enable_rtprelay" false,
    readBool .force_symmetric_rtp "bleg_force_symmetric_rtp" false,
    readBool .aleg_force_symmetric_rtp "aleg_force_symmetric_rtp" false,
    readStr .rtprelay_interface "rtprelay_interface",
    readStr .aleg_rtprelay_interface "aleg_rtprelay_interface",
    readStr .outbound_interface "outbound_interface",
    readStr .aleg_outbound_interface "aleg_outbound_interface",
    readBool .bleg_force_cancel_routeset "bleg_force_cancel_routeset" false] ++
  codecStmts ++
  [readInt .disconnect_code_id "disconnect_code_id" 0,
    readInt .bleg_override_id "bleg_policy_id" 0,
    readInt .ringing_timeout "ringing_timeout" 0,
    readStr .global_tag "global_tag",
    readBool .rtprelay_dtmf_filtering "rtprelay_dtmf_filtering" false,
    readBool .rtprelay_dtmf_detection "rtprelay_dtmf_detection" false,
    readBool .rtprelay_force_dtmf_relay "rtprelay_force_dtmf_relay" true,
    readBool .aleg_symmetric_rtp_nonstop "aleg_symmetric_rtp_nonstop" false,
    readBool .bleg_symmetric_rtp_nonstop "bleg_symmetric_rtp_nonstop" false,
    readBool .aleg_relay_options "aleg_relay_options" false,
    readBool .bleg_relay_options "bleg_relay_options" false,
    readBool .aleg_relay_update "aleg_relay_update" true,
    readBool .bleg_relay_update "bleg_relay_update" true,
    readBool .filter_noaudio_streams "filter_noaudio_streams" true,
    readBool .aleg_rtp_ping "aleg_rtp_ping" false,
    readBool .bleg_rtp_ping "bleg_rtp_ping" false,
    readInt .aleg_conn_location_id "aleg_sdp_c_location_id" 0,
    readInt .bleg_conn_location_id "bleg_sdp_c_location_id" 0,
    readUnsigned .dead_rtp_time "dead_rtp_time" core.dead_rtp_time,
    readBool .aleg_relay_reinvite "aleg_relay_reinvite" true,
    readBool .bleg_relay_reinvite "bleg_relay_reinvite" true,
    readBool .aleg_relay_hold "aleg_relay_hold" true,
    readBool .bleg_relay_hold "bleg_relay_hold" true,
    readBool .relay_timestamp_aligning "rtp_relay_timestamp_aligning" false,
    readBool .allow_1xx_without_to_tag "allow_1xx_wo2tag" false,
    readUnsigned .inv_transaction_timeout "invite_timeout" 0,
    readUnsigned .inv_srv_failover_timeout "srv_failover_timeout" 0,
    readBool .force_relay_CN "rtp_force_relay_cn" false,
    readInt .aleg_sensor_id "aleg_sensor_id" (-1),
    readInt .bleg_sensor_id "bleg_sensor_id" (-1),
    readInt .aleg_sensor_level_id "aleg_sensor_level_id" 0,
    readInt .bleg_sensor_level_id "bleg_sensor_level_id" 0]

def dtmfStmts : List Assignment :=
  [readInt .aleg_dtmf_send_mode_id "aleg_dtmf_send_mode_id" DTMF_TX_MODE_RFC2833,
    readInt .bleg_dtmf_send_mode_id "bleg_dtmf_send_mode_id" DTMF_TX_MODE_RFC2833,
    readInt .aleg_dtmf_recv_modes "aleg_dtmf_recv_modes" DTMF_RX_MODE_ALL,
    readInt .bleg_dtmf_recv_modes "bleg_dtmf_recv_modes" DTMF_RX_MODE_ALL,
    readBool .aleg_rtp_filter_inband_dtmf "aleg_rtp_filter_inband_dtmf" false,
    readBool .bleg_rtp_filter_inband_dtmf "bleg_rtp_filter_inband_dtmf" false,
    setDtmfMode,
    setForceTranscoding]

def timerStmts : List Assignment :=
  [readBool .suppress_early_media "suppress_early_media" false,
    readBool .force_one_way_early_media "force_one_way_early_media" false,
    readInt .fake_ringing_timeout "fake_180_timer" 0,
    readInt .aleg_rel100_mode_id "aleg_rel100_mode_id" (-1),
    readInt .bleg_rel100_mode_id "bleg_rel100_mode_id" (-1),
    readInt .radius_profile_id "radius_auth_profile_id" 0,
    readInt .aleg_radius_acc_profile_id "aleg_radius_acc_profile_id" 0,
    readInt .bleg_radius_acc_profile_id "bleg_radius_acc_profile_id" 0]

/-- The priority of the protocols is set a second time, from the column of the redirects. -/
def transportStmts : List Assignment :=
  [readUnsigned .bleg_transport_id "bleg_transport_protocol_id" 0,
    readUnsigned .outbound_proxy_transport_id "bleg_outbound_proxy_transport_protocol_id" 0,
    readUnsigned .aleg_outbound_proxy_transport_id
      "aleg_outbound_proxy_transport_protocol_id" 0,
    readUnsigned .bleg_protocol_priority_id "bleg_protocol_priority_id" core.IPv4_only,
    readUnsigned .bleg_protocol_priority_id "bleg_max_30x_redirects" 0,
    readUnsigned .bleg_max_transfers "bleg_max_transfers" 0]

def lastStmts : List Assignment :=
  [readBool .auth_required "aleg_auth_required" false,
    readInt .registered_aor_id "registered_aor_id" 0,
    readInt .registered_aor_mode_id "registered_aor_mode_id" REGISTERED_AOR_MODE_AS_IS,
    readInt .aleg_media_encryption_mode_id "aleg_media_encryption_mode_id" 0,
    readInt .bleg_media_encryption_mode_id "bleg_media_encryption_mode_id" 0,
    addMediaAcl core .aleg_rtp_acl "aleg_rtp_acl",
    addMediaAcl core .bleg_rtp_acl "bleg_rtp_acl",
    readInt .ss_crt_id "ss_crt_id" 0,
    -- attest level C
    readInt .ss_attest_id "ss_attest_id" 3,
    readStr .ss_otn "ss_otn",
    readStr .ss_dtn "ss_dtn"]

/-- What only routing profiles have. -/
def routingStmts : List Assignment :=
  dialogStmts ++ filterStmts core ++ sstStmts core ++ authStmts core ++ relayStmts core ++
    dtmfStmts ++ timerStmts ++ transportStmts core ++ lastStmts core

/-- The profile where it is known whether it is a refusing one. -/
def readCommon (df : List String) (t : AmArg) (p : SqlCallProfile) : SqlCallProfile :=
  run (commonStmts core df ++ placeholderStmts core t ++
    [readInt .disconnect_code_id "disconnect_code_id" 0]) t p

/-- `SqlCallProfile::readFromTuple`. -/
def readFromTuple (df : List String) (t : AmArg) (p : SqlCallProfile) : Option SqlCallProfile :=
  let p := readCommon core df t p
  if p (.int .disconnect_code_id) ≠ 0 then some p
  else exec (routingStmts core) t p

end Yeti.Profile
