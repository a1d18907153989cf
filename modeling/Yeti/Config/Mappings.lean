import Mathlib.Data.List.AList

/-! # Configuration tables and their reload queries

    Model of `Yeti::initCfgTimerMappings`: the keys under which `check_states`
    reports the states of the configuration, and the queries that reload them.
-/

namespace Yeti.Config

/-- The part of the configuration file that the queries depend on. -/
structure YetiCfg where
  identity_enabled : Bool
  use_radius : Bool
  node_id : Int
  pop_id : Int
  /-- The log level covers `DBG`, whose arguments are evaluated then. -/
  debug : Bool
  deriving DecidableEq, Repr

/-- A query to the `routing` worker, answered under its `token`. -/
structure PGQuery where
  query : String
  params : List Int
  token : String
  deriving DecidableEq, Repr

/-- The entries of `db_config_timer_mappings`. -/
inductive Mapping where
  | stir_shaken_trusted_certificates
  | stir_shaken_trusted_repositories
  | stir_shaken_signing_certificates
  | ip_auth
  | trusted_lb
  | sensors
  | translations
  | dc_rerouting
  | dc_rewrite
  | dc_refuse
  | dc_refuse_override
  | dc_rerouting_override
  | dc_rewrite_override
  | codec_groups
  | registrations
  | radius_authorization_profiles
  | radius_accounting_profiles
  | auth_credentials
  | options_probers
  deriving DecidableEq, Repr

namespace Mapping

def key : Mapping → String
  | stir_shaken_trusted_certificates => "stir_shaken_trusted_certificates"
  | stir_shaken_trusted_repositories => "stir_shaken_trusted_repositories"
  | stir_shaken_signing_certificates => "stir_shaken_signing_certificates"
  | ip_auth => "ip_auth"
  | trusted_lb => "trusted_lb"
  | sensors => "sensors"
  | translations => "translations"
  | dc_rerouting => "translations.dc_rerouting"
  | dc_rewrite => "translations.dc_rewrite"
  | dc_refuse => "translations.dc_refuse"
  | dc_refuse_override => "translations.dc_refuse_override"
  | dc_rerouting_override => "translations.dc_rerouting_override"
  | dc_rewrite_override => "translations.dc_rewrite_override"
  | codec_groups => "codec_groups"
  | registrations => "registrations"
  | radius_authorization_profiles => "radius_authorization_profiles"
  | radius_accounting_profiles => "radius_accounting_profiles"
  | auth_credentials => "auth_credentials"
  | options_probers => "options_probers"

/-- All entries of `db_config_timer_mappings`. -/
def all : List Mapping :=
  [stir_shaken_trusted_certificates, stir_shaken_trusted_repositories,
    stir_shaken_signing_certificates, ip_auth, trusted_lb, sensors, translations,
    dc_rerouting, dc_rewrite, dc_refuse, dc_refuse_override, dc_rerouting_override,
    dc_rewrite_override, codec_groups, registrations, radius_authorization_profiles,
    radius_accounting_profiles, auth_credentials, options_probers]

/-- `db_config_timer_mappings.find`. -/
def find (key : String) : Option Mapping := all.find? (·.key == key)

theorem find_key (m : Mapping) : find m.key = some m := by
  cases m <;> decide +kernel

/-- The query of an entry under its own key; the alias has none. -/
def ownQuery (config : YetiCfg) (m : Mapping) : List PGQuery :=
  match m with
  | stir_shaken_trusted_certificates =>
    if !config.identity_enabled then []
    else [⟨"SELECT * FROM load_stir_shaken_trusted_certificates()", [], m.key⟩]
  | stir_shaken_trusted_repositories =>
    if !config.identity_enabled then []
    else [⟨"SELECT * FROM load_stir_shaken_trusted_repositories()", [], m.key⟩]
  | stir_shaken_signing_certificates =>
    if !config.identity_enabled then []
    else [⟨"SELECT * FROM load_stir_shaken_signing_certificates()", [], m.key⟩]
  | ip_auth =>
    [⟨"SELECT * FROM load_ip_auth($1,$2)", [config.node_id, config.pop_id], m.key⟩]
  | trusted_lb => [⟨"SELECT * FROM load_trusted_lb()", [], m.key⟩]
  | sensors => [⟨"SELECT * FROM load_sensor()", [], m.key⟩]
  | translations => []
  | dc_rerouting => [⟨"SELECT * FROM load_disconnect_code_rerouting()", [], m.key⟩]
  | dc_rewrite => [⟨"SELECT * FROM load_disconnect_code_rewrite()", [], m.key⟩]
  | dc_refuse => [⟨"SELECT * from load_disconnect_code_refuse()", [], m.key⟩]
  | dc_refuse_override => [⟨"SELECT * from load_disconnect_code_refuse_overrides()", [], m.key⟩]
  | dc_rerouting_override =>
    [⟨"SELECT * from load_disconnect_code_rerouting_overrides()", [], m.key⟩]
  | dc_rewrite_override =>
    [⟨"SELECT * from load_disconnect_code_rewrite_overrides()", [], m.key⟩]
  | codec_groups => [⟨"SELECT * from load_codecs()", [], m.key⟩]
  | registrations =>
    [⟨"SELECT * FROM load_registrations_out($1,$2)", [config.pop_id, config.node_id], m.key⟩]
  | radius_authorization_profiles =>
    if config.use_radius then [⟨"SELECT * from load_radius_profiles()", [], m.key⟩] else []
  | radius_accounting_profiles =>
    if config.use_radius then [⟨"SELECT * from load_radius_accounting_profiles()", [], m.key⟩]
    else []
  | auth_credentials => [⟨"SELECT * from load_incoming_auth()", [], m.key⟩]
  | options_probers =>
    -- one placeholder, and two parameters
    [⟨"SELECT * FROM load_sip_options_probers($1)", [config.pop_id, config.node_id], m.key⟩]

/-- The entries between `upper_bound("translations.")` and
    `lower_bound("translations/")`. -/
def subkeys : List Mapping :=
  all.filter fun m => "translations." < m.key && m.key < "translations/"

/-- The queries posted by `on_reload`. -/
def on_reload (config : YetiCfg) (m : Mapping) : List PGQuery :=
  match m with
  | translations => subkeys.flatMap (ownQuery config)
  | m => m.ownQuery config

/-- An entry posts queries under its own key only, and no key is `check_states`. -/
theorem token_ownQuery {config : YetiCfg} {m : Mapping} {q : PGQuery}
    (h : q ∈ m.ownQuery config) : q.token = m.key := by
  cases m <;> simp only [ownQuery] at h <;> (try split at h) <;> simp_all

theorem key_ne_check_states (m : Mapping) : m.key ≠ "check_states" := by
  cases m <;> decide

/-- Every query of a reload is answered under the key of an entry. -/
theorem token_on_reload {config : YetiCfg} {m : Mapping} {q : PGQuery}
    (h : q ∈ m.on_reload config) : ∃ p : Mapping, q.token = p.key := by
  by_cases hm : m = translations
  · subst hm
    obtain ⟨p, -, hq⟩ := List.mem_flatMap.mp h
    exact ⟨p, token_ownQuery hq⟩
  · have hq : q ∈ m.ownQuery config := by
      cases m <;> first | exact h | exact absurd rfl hm
    exact ⟨m, token_ownQuery hq⟩

end Mapping

end Yeti.Config
