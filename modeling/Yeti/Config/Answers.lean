import Mathlib.Algebra.Group.Int.Defs
import Yeti.Call.Refusal
import Yeti.Certs.Cache

/-! # Answers of the database

    Model of the handlers that `Yeti::process` calls with the answers to the reload
    queries: those of `CertCache`, `OriginationPreAuth`, `CodesTranslator` and `Auth`.
    Some fill a temporary container and swap it in, others clear theirs and fill it in
    place.

    A handler gives the configuration it leaves behind, also when it throws.  `AmArg`,
    the parser of subnets and the tree of subnets belong to the core, Botan and
    `std::regex` are libraries as well; they are parameters (`Library`).
-/

namespace Yeti.Config

open Certs Call

/-! ### Values -/

/-- `class AmArg`; `other` are the values of all other types. -/
inductive AmArg where
  | undef
  | int (v : Int)
  | bool (v : Bool)
  | cstr (v : String)
  | array (items : List AmArg)
  | struct (fields : List (String × AmArg))
  | other (type : Nat)

/-- What a handler may throw. -/
inductive Thrown where
  | OutOfBoundsException
  | TypeMismatchException
  | text (s : String)
  deriving DecidableEq, Repr

/-- The accessors of `AmArg` that throw. -/
structure Accessors where
  /-- `a[key]` -/
  index : AmArg → String → Except Thrown AmArg
  asInt : AmArg → Except Thrown Int
  /-- `asNumber<unsigned long>` -/
  asNumber : AmArg → Except Thrown Nat
  asBool : AmArg → Except Thrown Bool
  asCStr : AmArg → Except Thrown String

namespace AmArg

/-- `a[key]` after `a.hasMember(key)`. -/
def member? (a : AmArg) (key : String) : Option AmArg :=
  match a with
  | .struct fields => fields.lookup key
  | _ => none

/-- `DbAmArg_hash_get_bool`. -/
def hash_get_bool (a : AmArg) (key : String) (default_value : Bool) : Bool :=
  match a.member? key with
  | some (.bool v) => v
  | _ => default_value

/-- `DbAmArg_hash_get_str`; no caller here gives a default. -/
def hash_get_str (a : AmArg) (key : String) : String :=
  match a.member? key with
  | some (.cstr v) => v
  | _ => ""

/-- `DbAmArg_hash_get_int`. -/
def hash_get_int (a : AmArg) (key : String) (default_value : Int) : Int :=
  match a.member? key with
  | some (.int v) => v
  | _ => default_value

/-- The rows of an answer, `none` where it is no array. -/
def rows? : AmArg → Option (List AmArg)
  | .array items => some items
  | _ => none

/-- The rows that a handler goes through. -/
def rows (data : AmArg) : List AmArg := data.rows?.getD []

end AmArg

/-- The conversion from `int` to `unsigned int`. -/
def toUnsigned (v : Int) : Nat := (v % 2 ^ 32).toNat

/-! ### Loops over rows -/

section Fill

variable {E C : Type}

/-- A loop that fills a container.  A row is read, which may throw; a row that is read gives
    an entry, or none when the row is only reported. -/
def fill (read : AmArg → Except Thrown (Option E)) (add : C → E → C) (c : C) :
    List AmArg → C × Option Thrown
  | [] => (c, none)
  | a :: rows =>
    match read a with
    | .error e => (c, some e)
    | .ok none => fill read add c rows
    | .ok (some entry) => fill read add (add c entry) rows

end Fill

/-- `try_emplace` for a map. -/
def try_emplace {K V : Type} [DecidableEq K] (m : List (K × V)) (e : K × V) : List (K × V) :=
  if (m.lookup e.1).isSome then m else m ++ [e]

/-- `emplace(override_id, Container()).first->second.emplace(code, value)`. -/
def override_emplace {V : Type} (m : List (Int × List (Nat × V))) (e : Int × Nat × V) :
    List (Int × List (Nat × V)) :=
  (try_emplace m (e.1, [])).map fun p =>
    if p.1 = e.1 then (p.1, try_emplace p.2 e.2) else p

/-! ### Containers -/

/-- `SigningKeyEntry`. -/
structure SigningKeyEntry (Key : Type) where
  name : String
  x5u : String
  key : Key
  deriving DecidableEq, Repr

/-- `OriginationPreAuth::LoadBalancerData`. -/
structure LoadBalancerData where
  id : Int
  name : String
  signalling_ip : String
  deriving DecidableEq, Repr

/-- `OriginationPreAuth::IPAuthData`. -/
structure IPAuthData (Subnet : Type) where
  ip : String
  subnet : Subnet
  x_yeti_auth : String
  require_incoming_auth : Bool
  require_identity_parsing : Bool
  deriving DecidableEq, Repr

/-- `Auth::cred`; the container has one for each row, under the user name. -/
structure Cred where
  id : Int
  username : String
  password : String
  deriving DecidableEq, Repr

/-- The parts that do not belong to the module. -/
structure Library (Cert Key Subnet Tree : Type) where
  acc : Accessors
  botan : Botan Cert
  regex : Regex
  /-- `PKCS8::load_key`, `none` where it throws a `Botan::Exception`. -/
  load_key : String → Option Key
  /-- `AmSubnet::parse` -/
  parse : String → Option Subnet
  /-- an `IPTree` after `clear` -/
  cleared : Tree
  addSubnet : Tree → Subnet → Nat → Tree

/-- The configuration that the handlers manage. -/
structure Configuration (Cert Key Subnet Tree : Type) where
  cert_cache : CertCache Cert
  signing_keys : List (Nat × SigningKeyEntry Key) := []
  load_balancers : List LoadBalancerData := []
  ip_auths : List (IPAuthData Subnet) := []
  subnets_tree : Tree
  codes : CodesTranslator
  replies : ReplyTables := {}
  credentials : List Cred := []

namespace Library

variable {Cert Key Subnet Tree : Type} (lib : Library Cert Key Subnet Tree)

/-! ### Rows -/

/-- `a[key].asInt()` and so on. -/
def intAt (a : AmArg) (key : String) : Except Thrown Int := lib.acc.index a key >>= lib.acc.asInt
def numberAt (a : AmArg) (key : String) : Except Thrown Nat :=
  lib.acc.index a key >>= lib.acc.asNumber
def boolAt (a : AmArg) (key : String) : Except Thrown Bool := lib.acc.index a key >>= lib.acc.asBool
def cstrAt (a : AmArg) (key : String) : Except Thrown String :=
  lib.acc.index a key >>= lib.acc.asCStr

/-- A row of `reloadTrustedCertificates`. -/
def certRow (a : AmArg) : CertRow where
  id := (lib.intAt a "id").toOption
  name := (lib.cstrAt a "name").toOption
  certificate := (lib.cstrAt a "certificate").toOption.map fun s => s.toUTF8.data.toList

/-- A row of `reloadTrustedRepositories`. -/
def repositoryRow (a : AmArg) : CertCache.RepositoryRow where
  id := (lib.intAt a "id").toOption
  url_pattern := (lib.cstrAt a "url_pattern").toOption
  validate_https_certificate := (lib.boolAt a "validate_https_certificate").toOption

/-- A row of `reloadSigningKeys`.  A key that Botan does not take is reported, and `x5u` is not
    asked for. -/
def signingKey (a : AmArg) : Except Thrown (Option (Nat × SigningKeyEntry Key)) := do
  let id ← lib.numberAt a "id"
  let name ← lib.cstrAt a "name"
  let key_data ← lib.cstrAt a "key"
  match lib.load_key key_data with
  | none => return none
  | some key => return some (id, ⟨name, ← lib.cstrAt a "x5u", key⟩)

/-- The constructor of `LoadBalancerData`. -/
def loadBalancerData (r : AmArg) : Except Thrown (Option LoadBalancerData) := do
  let id ← lib.intAt r "id"
  let name ← lib.cstrAt r "name"
  let signalling_ip ← lib.cstrAt r "signalling_ip"
  return some ⟨id, name, signalling_ip⟩

/-- The constructor of `IPAuthData`. -/
def ipAuthData (r : AmArg) : Except Thrown (Option (IPAuthData Subnet)) :=
  let ip := r.hash_get_str "ip"
  match lib.parse ip with
  | none => .error (.text "failed to parse IP")
  | some subnet => .ok (some {
      ip, subnet
      x_yeti_auth := r.hash_get_str "x_yeti_auth"
      require_incoming_auth := r.hash_get_bool "require_incoming_auth" false
      require_identity_parsing := r.hash_get_bool "require_identity_parsing" false })

/-- A row of `reload_credentials`. -/
def cred (a : AmArg) : Except Thrown (Option Cred) := do
  let id ← lib.intAt a "id"
  let username ← lib.cstrAt a "username"
  let password ← lib.cstrAt a "password"
  return some ⟨id, username, password⟩

end Library

/-- A row of `load_disconnect_code_rerouting`. -/
def prefRow (row : AmArg) : Nat × Bool :=
  (toUnsigned (row.hash_get_int "received_code" 0), row.hash_get_bool "stop_rerouting" true)

/-- A row of `load_disconnect_code_rewrite`.  The rewritten code is read as an unsigned one. -/
def transRow (row : AmArg) : Nat × Trans :=
  let code := row.hash_get_int "o_code" 0
  let rewrited_reason := row.hash_get_str "o_rewrited_reason"
  (toUnsigned code, {
    pass_reason_to_originator := row.hash_get_bool "o_pass_reason_to_originator" false
    rewrite_code := toUnsigned (row.hash_get_int "o_rewrited_code" code)
    rewrite_reason := if rewrited_reason.isEmpty then row.hash_get_str "o_reason"
      else rewrited_reason })

/-- The columns that both loaders of internal codes read; `response_reason` may be empty. -/
def icodeRow (row : AmArg) : Nat × Icode :=
  let internal_code := row.hash_get_int "o_code" 0
  (toUnsigned (row.hash_get_int "o_id" 0), {
    internal_code
    internal_reason := row.hash_get_str "o_reason"
    response_code := row.hash_get_int "o_rewrited_code" internal_code
    response_reason := row.hash_get_str "o_rewrited_reason"
    store_cdr := row.hash_get_bool "o_store_cdr" true
    silently_drop := row.hash_get_bool "o_silently_drop" false })

/-- A row of `load_disconnect_code_refuse`: an empty reason is that of the internal code.  The
    overrides do without this. -/
def refuseRow (row : AmArg) : Nat × Icode :=
  let (code, i) := icodeRow row
  (code, if i.response_reason.isEmpty then { i with response_reason := i.internal_reason } else i)

/-! ### Handlers -/

/-- The handlers. -/
inductive Handler where
  | reloadTrustedCertificates
  | reloadTrustedRepositories
  | reloadSigningKeys
  | reloadLoadBalancers
  | reloadLoadIPAuth
  | load_disconnect_code_rerouting
  | load_disconnect_code_rewrite
  | load_disconnect_code_refuse
  | load_disconnect_code_refuse_overrides
  | load_disconnect_code_rerouting_overrides
  | load_disconnect_code_rewrite_overrides
  | reload_credentials
  deriving DecidableEq, Repr

namespace Configuration

variable {Cert Key Subnet Tree : Type} [DecidableEq Cert] (lib : Library Cert Key Subnet Tree)

/-- A container is filled aside and swapped in when no row throws. -/
def swapIn {E C : Type} (c : Configuration Cert Key Subnet Tree)
    (read : AmArg → Except Thrown (Option E)) (add : C → E → C) (empty : C) (data : AmArg)
    (swap : C → Configuration Cert Key Subnet Tree) : Configuration Cert Key Subnet Tree × Bool :=
  match fill read add empty data.rows with
  | (_, some _) => (c, true)
  | (tmp, none) => (swap tmp, false)

/-- `CertCache::reloadTrustedCertificates`. -/
def reloadTrustedCertificates (c : Configuration Cert Key Subnet Tree) (data : AmArg) :
    Configuration Cert Key Subnet Tree × Bool :=
  let (trusted, finished) := Certs.reloadTrustedCertificates lib.botan c.cert_cache.trusted
    (data.rows?.map (List.map lib.certRow))
  ({ c with cert_cache := { c.cert_cache with trusted } }, !finished)

/-- All columns of a row of `reloadTrustedRepositories` can be read. -/
def repositoryReadable (r : CertCache.RepositoryRow) : Bool :=
  r.id.isSome && r.url_pattern.isSome && r.validate_https_certificate.isSome

/-- `CertCache::reloadTrustedRepositories`, which throws at the first row that cannot be read. -/
def reloadTrustedRepositories (c : Configuration Cert Key Subnet Tree) (data : AmArg) :
    Configuration Cert Key Subnet Tree × Bool :=
  let cert_cache := c.cert_cache.reloadTrustedRepositories lib.regex
    (data.rows?.map (List.map lib.repositoryRow))
  ({ c with cert_cache }, !(data.rows.map lib.repositoryRow).all repositoryReadable)

/-- `CertCache::reloadSigningKeys`; `clear` stands before the loop. -/
def reloadSigningKeys (c : Configuration Cert Key Subnet Tree) (data : AmArg) :
    Configuration Cert Key Subnet Tree × Bool :=
  let (signing_keys, e) := fill lib.signingKey try_emplace [] data.rows
  ({ c with signing_keys }, e.isSome)

/-- `OriginationPreAuth::reloadLoadBalancers`. -/
def reloadLoadBalancers (c : Configuration Cert Key Subnet Tree) (data : AmArg) :
    Configuration Cert Key Subnet Tree × Bool :=
  c.swapIn lib.loadBalancerData (fun l e => l ++ [e]) [] data
    fun tmp => { c with load_balancers := tmp }

/-- The loop that fills the tree. -/
def subnetsTree (ip_auths : List (IPAuthData Subnet)) : Tree :=
  (ip_auths.foldl (fun (tree, idx) auth => (lib.addSubnet tree auth.subnet idx, idx + 1))
    (lib.cleared, 0)).1

/-- `OriginationPreAuth::reloadLoadIPAuth`. -/
def reloadLoadIPAuth (c : Configuration Cert Key Subnet Tree) (data : AmArg) :
    Configuration Cert Key Subnet Tree × Bool :=
  c.swapIn lib.ipAuthData (fun l e => l ++ [e]) [] data
    fun tmp => { c with ip_auths := tmp, subnets_tree := subnetsTree lib tmp }

/-- `CodesTranslator::load_disconnect_code_rerouting`. -/
def load_disconnect_code_rerouting (c : Configuration Cert Key Subnet Tree) (data : AmArg) :
    Configuration Cert Key Subnet Tree × Bool :=
  c.swapIn (fun row => .ok (some (prefRow row))) try_emplace [] data
    fun tmp => { c with replies := { c.replies with code2pref := tmp } }

/-- `CodesTranslator::load_disconnect_code_rewrite`. -/
def load_disconnect_code_rewrite (c : Configuration Cert Key Subnet Tree) (data : AmArg) :
    Configuration Cert Key Subnet Tree × Bool :=
  c.swapIn (fun row => .ok (some (transRow row))) try_emplace [] data
    fun tmp => { c with replies := { c.replies with code2trans := tmp } }

/-- `CodesTranslator::load_disconnect_code_refuse`. -/
def load_disconnect_code_refuse (c : Configuration Cert Key Subnet Tree) (data : AmArg) :
    Configuration Cert Key Subnet Tree × Bool :=
  c.swapIn (fun row => .ok (some (refuseRow row))) try_emplace [] data
    fun tmp => { c with codes := { c.codes with icode2resp := tmp } }

/-- `CodesTranslator::load_disconnect_code_refuse_overrides`. -/
def load_disconnect_code_refuse_overrides (c : Configuration Cert Key Subnet Tree) (data : AmArg) :
    Configuration Cert Key Subnet Tree × Bool :=
  c.swapIn (fun row => .ok (some (row.hash_get_int "policy_id" 0, icodeRow row)))
    override_emplace [] data
    fun tmp => { c with codes := { c.codes with icode2resp_overrides := tmp } }

/-- `CodesTranslator::load_disconnect_code_rerouting_overrides`. -/
def load_disconnect_code_rerouting_overrides (c : Configuration Cert Key Subnet Tree)
    (data : AmArg) : Configuration Cert Key Subnet Tree × Bool :=
  c.swapIn (fun row => .ok (some (row.hash_get_int "policy_id" 0, prefRow row)))
    override_emplace [] data
    fun tmp => { c with replies := { c.replies with code2prefs_overrides := tmp } }

/-- `CodesTranslator::load_disconnect_code_rewrite_overrides`. -/
def load_disconnect_code_rewrite_overrides (c : Configuration Cert Key Subnet Tree)
    (data : AmArg) : Configuration Cert Key Subnet Tree × Bool :=
  c.swapIn (fun row => .ok (some (row.hash_get_int "o_policy_id" 0, transRow row)))
    override_emplace [] data
    fun tmp => { c with replies := { c.replies with code2trans_overrides := tmp } }

/-- `Auth::reload_credentials`. -/
def reload_credentials (c : Configuration Cert Key Subnet Tree) (data : AmArg) :
    Configuration Cert Key Subnet Tree × Bool :=
  c.swapIn lib.cred (fun l e => l ++ [e]) [] data fun tmp => { c with credentials := tmp }

/-- `on_db_response`, called by `Yeti::process`, which catches what it throws. -/
def on_db_response (c : Configuration Cert Key Subnet Tree) (h : Handler) (data : AmArg) :
    Configuration Cert Key Subnet Tree × Bool :=
  match h with
  | .reloadTrustedCertificates => c.reloadTrustedCertificates lib data
  | .reloadTrustedRepositories => c.reloadTrustedRepositories lib data
  | .reloadSigningKeys => c.reloadSigningKeys lib data
  | .reloadLoadBalancers => c.reloadLoadBalancers lib data
  | .reloadLoadIPAuth => c.reloadLoadIPAuth lib data
  | .load_disconnect_code_rerouting => c.load_disconnect_code_rerouting data
  | .load_disconnect_code_rewrite => c.load_disconnect_code_rewrite data
  | .load_disconnect_code_refuse => c.load_disconnect_code_refuse data
  | .load_disconnect_code_refuse_overrides => c.load_disconnect_code_refuse_overrides data
  | .load_disconnect_code_rerouting_overrides => c.load_disconnect_code_rerouting_overrides data
  | .load_disconnect_code_rewrite_overrides => c.load_disconnect_code_rewrite_overrides data
  | .reload_credentials => c.reload_credentials lib data

end Configuration

end Yeti.Config
