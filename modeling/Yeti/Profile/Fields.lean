import Yeti.Config.Answers
import Yeti.Framework.Assignments
import Yeti.Headers.Filter

/-! # The members of a profile

    The members of `SqlCallProfile` that `SqlCallProfile::readFromTuple` fills, grouped by
    their types, and the columns of the database that each of them is named after or derived
    from.  A profile gives every member a value of its type.

    A map member counts as one member for each key, where `none` stands for a missing key.
-/

namespace Yeti.Profile

open Config (AmArg)
open Headers (FilterEntry)

/-! ### Members -/

inductive IntMember where
  | time_limit | aleg_override_id | dump_level_id | disconnect_code_id
  | session_refresh_method_id | aleg_session_refresh_method_id | static_codecs_aleg_id
  | static_codecs_bleg_id | bleg_override_id | ringing_timeout | aleg_conn_location_id
  | bleg_conn_location_id | aleg_sensor_id | bleg_sensor_id | aleg_sensor_level_id
  | bleg_sensor_level_id | aleg_dtmf_send_mode_id | bleg_dtmf_send_mode_id | aleg_dtmf_recv_modes
  | bleg_dtmf_recv_modes | fake_ringing_timeout | aleg_rel100_mode_id | bleg_rel100_mode_id
  | radius_profile_id | aleg_radius_acc_profile_id | bleg_radius_acc_profile_id
  | registered_aor_id | registered_aor_mode_id | aleg_media_encryption_mode_id
  | bleg_media_encryption_mode_id | ss_crt_id | ss_attest_id
  deriving DecidableEq

inductive UnsignedMember where
  | dead_rtp_time | inv_transaction_timeout | inv_srv_failover_timeout | bleg_transport_id
  | outbound_proxy_transport_id | aleg_outbound_proxy_transport_id | bleg_protocol_priority_id
  | bleg_max_30x_redirects | bleg_max_transfers
  deriving DecidableEq

inductive BoolMember where
  | trusted_hdrs_gw | record_audio | log_rtp | log_sip | dlg_nat_handling | force_outbound_proxy
  | aleg_force_outbound_proxy | next_hop_1st_req | patch_ruri_next_hop | sst_enabled
  | sst_aleg_enabled | auth_enabled | auth_aleg_enabled | rtprelay_enabled | force_symmetric_rtp
  | aleg_force_symmetric_rtp | bleg_force_cancel_routeset | aleg_single_codec | bleg_single_codec
  | avoid_transcoding | rtprelay_dtmf_filtering | rtprelay_dtmf_detection
  | rtprelay_force_dtmf_relay | aleg_symmetric_rtp_nonstop | bleg_symmetric_rtp_nonstop
  | aleg_relay_options | bleg_relay_options | aleg_relay_update | bleg_relay_update
  | filter_noaudio_streams | aleg_rtp_ping | bleg_rtp_ping | aleg_relay_reinvite
  | bleg_relay_reinvite | aleg_relay_hold | bleg_relay_hold | relay_timestamp_aligning
  | allow_1xx_without_to_tag | force_relay_CN | aleg_rtp_filter_inband_dtmf
  | bleg_rtp_filter_inband_dtmf | force_transcoding | suppress_early_media
  | force_one_way_early_media | auth_required
  deriving DecidableEq

/-- `auth_credentials_user` is `auth_credentials.user`, and so on. -/
inductive StrMember where
  | ruri | outbound_proxy | resources | append_headers | from_ | to_ | callid
  | aleg_outbound_proxy | next_hop | aleg_next_hop | auth_credentials_user | auth_credentials_pwd
  | auth_aleg_credentials_user | auth_aleg_credentials_pwd | append_headers_req
  | aleg_append_headers_req | aleg_append_headers_reply | rtprelay_interface
  | aleg_rtprelay_interface | outbound_interface | aleg_outbound_interface | global_tag | ss_otn
  | ss_dtn
  deriving DecidableEq

inductive FilterMember where
  | headerfilter_a2b | headerfilter_b2a | sdpfilter | sdpalinesfilter | bleg_sdpalinesfilter
  deriving DecidableEq

inductive AclMember where
  | aleg_rtp_acl | bleg_rtp_acl
  deriving DecidableEq

inductive SstCfg where
  | sst_a_cfg | sst_b_cfg
  deriving DecidableEq

/-- The members of `struct SqlCallProfile` that are read from a row. -/
inductive Member where
  | int (m : IntMember)
  | unsigned (m : UnsignedMember)
  | bool (m : BoolMember)
  | str (m : StrMember)
  | filters (m : FilterMember)
  | acl (m : AclMember)
  | reply_translations
  /-- `transcoder.dtmf_mode` -/
  | dtmf_mode
  | dyn_fields (name : String)
  | placeholders_hash (key : String)
  | sst (cfg : SstCfg) (key : String)
  deriving DecidableEq

/-- `TranscoderSettings::dtmf_mode`. -/
inductive DtmfMode where
  | DTMFAlways
  | DTMFNever
  deriving DecidableEq

/-- `ReplyTranslationMap`, in the order of the codes. -/
abbrev ReplyTranslationMap := List (Nat × Nat × String)

/-- The type of a member.  A subnet is kept as the text that it is parsed from. -/
abbrev Member.Ty : Member → Type
  | .int _ => Int
  | .unsigned _ => Nat
  | .bool _ => Bool
  | .str _ => String
  | .filters _ => List FilterEntry
  | .acl _ => List String
  | .reply_translations => ReplyTranslationMap
  | .dtmf_mode => DtmfMode
  | .dyn_fields _ => Option AmArg
  | .placeholders_hash _ => Option String
  | .sst _ _ => Option String

/-- `struct SqlCallProfile`. -/
abbrev SqlCallProfile := Assignments.Store Member.Ty

/-! ### Columns -/

/-- The DTMF columns of both legs. -/
def dtmf_columns : List String :=
  ["aleg_dtmf_recv_modes", "bleg_dtmf_recv_modes", "aleg_rtp_filter_inband_dtmf",
    "bleg_rtp_filter_inband_dtmf"]

def IntMember.columns : IntMember → List String
  | .time_limit => ["time_limit"] | .aleg_override_id => ["aleg_policy_id"]
  | .dump_level_id => ["dump_level_id"] | .disconnect_code_id => ["disconnect_code_id"]
  | .session_refresh_method_id => ["enable_session_timer", "session_refresh_method_id"]
  | .aleg_session_refresh_method_id =>
    ["enable_session_timer", "enable_aleg_session_timer", "aleg_session_refresh_method_id"]
  | .static_codecs_aleg_id => ["aleg_codecs_group_id"]
  | .static_codecs_bleg_id => ["bleg_codecs_group_id"] | .bleg_override_id => ["bleg_policy_id"]
  | .ringing_timeout => ["ringing_timeout"]
  | .aleg_conn_location_id => ["aleg_sdp_c_location_id"]
  | .bleg_conn_location_id => ["bleg_sdp_c_location_id"] | .aleg_sensor_id => ["aleg_sensor_id"]
  | .bleg_sensor_id => ["bleg_sensor_id"] | .aleg_sensor_level_id => ["aleg_sensor_level_id"]
  | .bleg_sensor_level_id => ["bleg_sensor_level_id"]
  | .aleg_dtmf_send_mode_id => ["aleg_dtmf_send_mode_id"]
  | .bleg_dtmf_send_mode_id => ["bleg_dtmf_send_mode_id"]
  | .aleg_dtmf_recv_modes => ["aleg_dtmf_recv_modes"]
  | .bleg_dtmf_recv_modes => ["bleg_dtmf_recv_modes"]
  | .fake_ringing_timeout => ["fake_180_timer"] | .aleg_rel100_mode_id => ["aleg_rel100_mode_id"]
  | .bleg_rel100_mode_id => ["bleg_rel100_mode_id"]
  | .radius_profile_id => ["radius_auth_profile_id"]
  | .aleg_radius_acc_profile_id => ["aleg_radius_acc_profile_id"]
  | .bleg_radius_acc_profile_id => ["bleg_radius_acc_profile_id"]
  | .registered_aor_id => ["registered_aor_id"]
  | .registered_aor_mode_id => ["registered_aor_mode_id"]
  | .aleg_media_encryption_mode_id => ["aleg_media_encryption_mode_id"]
  | .bleg_media_encryption_mode_id => ["bleg_media_encryption_mode_id"]
  | .ss_crt_id => ["ss_crt_id"] | .ss_attest_id => ["ss_attest_id"]

def UnsignedMember.columns : UnsignedMember → List String
  | .dead_rtp_time => ["dead_rtp_time"] | .inv_transaction_timeout => ["invite_timeout"]
  | .inv_srv_failover_timeout => ["srv_failover_timeout"]
  | .bleg_transport_id => ["bleg_transport_protocol_id"]
  | .outbound_proxy_transport_id => ["bleg_outbound_proxy_transport_protocol_id"]
  | .aleg_outbound_proxy_transport_id => ["aleg_outbound_proxy_transport_protocol_id"]
  | .bleg_protocol_priority_id => ["bleg_protocol_priority_id"]
  | .bleg_max_30x_redirects => ["bleg_max_30x_redirects"]
  | .bleg_max_transfers => ["bleg_max_transfers"]

def BoolMember.columns : BoolMember → List String
  | .trusted_hdrs_gw => ["trusted_hdrs_gw"] | .record_audio => ["record_audio"]
  | .log_rtp => ["dump_level_id"] | .log_sip => ["dump_level_id"]
  | .dlg_nat_handling => ["dlg_nat_handling"] | .force_outbound_proxy => ["force_outbound_proxy"]
  | .aleg_force_outbound_proxy => ["aleg_force_outbound_proxy"]
  | .next_hop_1st_req => ["next_hop_1st_req"] | .patch_ruri_next_hop => ["patch_ruri_next_hop"]
  | .sst_enabled => ["enable_session_timer"]
  | .sst_aleg_enabled => ["enable_session_timer", "enable_aleg_session_timer"]
  | .auth_enabled => ["enable_auth"] | .auth_aleg_enabled => ["enable_aleg_auth"]
  | .rtprelay_enabled => ["enable_rtprelay"]
  | .force_symmetric_rtp => ["bleg_force_symmetric_rtp"]
  | .aleg_force_symmetric_rtp => ["aleg_force_symmetric_rtp"]
  | .bleg_force_cancel_routeset => ["bleg_force_cancel_routeset"]
  | .aleg_single_codec => ["aleg_single_codec_in_200ok"]
  | .bleg_single_codec => ["bleg_single_codec_in_200ok"]
  | .avoid_transcoding => ["try_avoid_transcoding"]
  | .rtprelay_dtmf_filtering => ["rtprelay_dtmf_filtering"]
  | .rtprelay_dtmf_detection => ["rtprelay_dtmf_detection"]
  | .rtprelay_force_dtmf_relay => ["rtprelay_force_dtmf_relay"]
  | .aleg_symmetric_rtp_nonstop => ["aleg_symmetric_rtp_nonstop"]
  | .bleg_symmetric_rtp_nonstop => ["bleg_symmetric_rtp_nonstop"]
  | .aleg_relay_options => ["aleg_relay_options"] | .bleg_relay_options => ["bleg_relay_options"]
  | .aleg_relay_update => ["aleg_relay_update"] | .bleg_relay_update => ["bleg_relay_update"]
  | .filter_noaudio_streams => ["filter_noaudio_streams"] | .aleg_rtp_ping => ["aleg_rtp_ping"]
  | .bleg_rtp_ping => ["bleg_rtp_ping"] | .aleg_relay_reinvite => ["aleg_relay_reinvite"]
  | .bleg_relay_reinvite => ["bleg_relay_reinvite"] | .aleg_relay_hold => ["aleg_relay_hold"]
  | .bleg_relay_hold => ["bleg_relay_hold"]
  | .relay_timestamp_aligning => ["rtp_relay_timestamp_aligning"]
  | .allow_1xx_without_to_tag => ["allow_1xx_wo2tag"] | .force_relay_CN => ["rtp_force_relay_cn"]
  | .aleg_rtp_filter_inband_dtmf => ["aleg_rtp_filter_inband_dtmf"]
  | .bleg_rtp_filter_inband_dtmf => ["bleg_rtp_filter_inband_dtmf"]
  | .force_transcoding => dtmf_columns | .suppress_early_media => ["suppress_early_media"]
  | .force_one_way_early_media => ["force_one_way_early_media"]
  | .auth_required => ["aleg_auth_required"]

def StrMember.columns : StrMember → List String
  | .ruri => ["ruri"] | .outbound_proxy => ["outbound_proxy"] | .resources => ["resources"]
  | .append_headers => ["append_headers"] | .from_ => ["from"] | .to_ => ["to"]
  | .callid => ["call_id"] | .aleg_outbound_proxy => ["aleg_outbound_proxy"]
  | .next_hop => ["next_hop"] | .aleg_next_hop => ["aleg_next_hop"]
  | .auth_credentials_user => ["auth_user"] | .auth_credentials_pwd => ["auth_pwd"]
  | .auth_aleg_credentials_user => ["auth_aleg_user"]
  | .auth_aleg_credentials_pwd => ["auth_aleg_pwd"]
  | .append_headers_req => ["append_headers_req"]
  | .aleg_append_headers_req => ["aleg_append_headers_req"]
  | .aleg_append_headers_reply => ["aleg_append_headers_reply"]
  | .rtprelay_interface => ["rtprelay_interface"]
  | .aleg_rtprelay_interface => ["aleg_rtprelay_interface"]
  | .outbound_interface => ["outbound_interface"]
  | .aleg_outbound_interface => ["aleg_outbound_interface"] | .global_tag => ["global_tag"]
  | .ss_otn => ["ss_otn"] | .ss_dtn => ["ss_dtn"]

def FilterMember.columns : FilterMember → List String
  | .headerfilter_a2b => ["transit_headers_a2b"]
  | .headerfilter_b2a => ["transit_headers_b2a"]
  | .sdpfilter => ["sdp_filter_type_id", "sdp_filter_list"]
  | .sdpalinesfilter => ["sdp_alines_filter_type_id", "sdp_alines_filter_list"]
  | .bleg_sdpalinesfilter => ["bleg_sdp_alines_filter_type_id", "bleg_sdp_alines_filter_list"]

def AclMember.columns : AclMember → List String
  | .aleg_rtp_acl => ["aleg_rtp_acl"]
  | .bleg_rtp_acl => ["bleg_rtp_acl"]

/-- The columns of a session timer parameter.  Those of the A leg are put over the common ones,
    so its parameters have both. -/
def SstCfg.columns (key : String) : SstCfg → List String
  | .sst_a_cfg =>
    ["enable_session_timer", "enable_aleg_session_timer"] ++
      match key with
      | "enable_session_timer" => []
      | "session_refresh_method" => ["aleg_session_refresh_method_id"]
      | _ => ["aleg_" ++ key, key]
  | .sst_b_cfg =>
    ["enable_session_timer"] ++
      match key with
      | "enable_session_timer" => []
      | "session_refresh_method" => ["session_refresh_method_id"]
      | _ => [key]

/-- The columns that a member is named after or derived from. -/
def Member.columns : Member → List String
  | .int m => m.columns
  | .unsigned m => m.columns
  | .bool m => m.columns
  | .str m => m.columns
  | .filters m => m.columns
  | .acl m => m.columns
  | .reply_translations => ["reply_translations"]
  | .dtmf_mode => dtmf_columns
  | .dyn_fields name => [name]
  | .placeholders_hash key => [key]
  | .sst cfg key => cfg.columns key

/-- The members that a refusing profile has too. -/
def Member.common : Member → Bool
  | .int .time_limit | .int .aleg_override_id | .int .dump_level_id
  | .int .disconnect_code_id => true
  | .bool .trusted_hdrs_gw | .bool .record_audio | .bool .log_rtp | .bool .log_sip => true
  | .str .ruri | .str .outbound_proxy | .str .resources | .str .append_headers => true
  | .dyn_fields _ | .placeholders_hash _ => true
  | _ => false

/-- A member may depend on a column: on its own ones, and where only routing profiles have it,
    on the column that makes a profile a refusing one. -/
def Derived (column : String) (m : Member) : Prop :=
  column ∈ m.columns ∨ column = "disconnect_code_id" ∧ m.common = false

instance (column : String) (m : Member) : Decidable (Derived column m) :=
  inferInstanceAs (Decidable (_ ∨ _))

end Yeti.Profile
