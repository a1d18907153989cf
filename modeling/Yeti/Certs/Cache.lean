import Yeti.Framework.Maps
import Yeti.Certs.Trusted

/-! # The certificate cache

    Model of `CertCache`, less the signing keys and the reports of the RPC methods.
    A leg that needs the certificate of a URL calls `checkAndFetch`; when it returns
    `false` the leg waits for a `CertCacheResponseEvent`, which `processHttpReply`
    posts to all `defer_sessions` of the entry.

    Every operation runs under the mutex of the cache and is one step here.  The
    requests it posts to the HTTP client are part of its result.  Times are counts
    of one unit since the epoch.
-/

namespace Yeti.Certs

/-! ### Parts that come from libraries -/

/-- A `Botan::Exception`. -/
structure BotanException where
  what : String
  error_code : Int
  error_type : Int
  deriving DecidableEq, Repr

/-- `Botan::Path_Validation_Result`. -/
structure PathValidationResult where
  successful_validation : Bool
  result_string : String
  /-- `trust_root().subject_dn().to_string()`. -/
  trust_root : String
  deriving DecidableEq, Repr

/-- The certificates of Botan, all of whose exceptions are `Botan::Exception`s. -/
structure BotanX509 (Cert : Type) extends Botan Cert where
  /-- What `load` throws when it gives no certificate. -/
  loadException : List UInt8 → BotanException
  not_after : Cert → Int
  x509_path_validate : (chain store : List Cert) → (now : Int) →
    Except BotanException PathValidationResult

/-- `std::regex`. -/
structure Regex where
  /-- The constructor takes the pattern, it does not throw `regex_error`. -/
  compiles : String → Bool
  regex_match : (url pattern : String) → Bool

/-! ### Entries -/

/-- `CertCacheEntry::cert_state`. -/
inductive CertState where
  | LOADING
  | LOADED
  | UNAVAILABLE
  deriving DecidableEq, Repr

/-- `CertCacheEntry`. -/
structure CertCacheEntry (Cert : Type) where
  expire_time : Int := 0
  response_data : List UInt8 := []
  cert_chain : List Cert := []
  error_str : String := ""
  error_code : Int := 0
  error_type : Int := 0
  state : CertState := .LOADING
  validation_sucessfull : Bool := false
  validation_result : String := ""
  trust_root_cert : String := ""
  /-- A set of sessions. -/
  defer_sessions : List String := []
  deriving DecidableEq, Repr

/-- `CertCacheEntry::reset`; the sessions stay. -/
def CertCacheEntry.reset {Cert : Type} (entry : CertCacheEntry Cert) : CertCacheEntry Cert :=
  { entry with
    error_type := 0
    error_code := 0
    error_str := ""
    response_data := []
    cert_chain := []
    state := .LOADING }

/-- `TrustedRepositoryEntry`. -/
structure TrustedRepositoryEntry where
  id : Int
  url_pattern : String
  validate_https_certificate : Bool
  deriving DecidableEq, Repr

/-- The request that `renewCertEntry` posts; the reply goes to the queue of the module. -/
structure HttpGetEvent where
  destination : String
  url : String
  token : String
  deriving DecidableEq, Repr

/-- `get_key_result`. -/
inductive KeyResult where
  | KEY_RESULT_READY
  | KEY_RESULT_DEFFERED
  | KEY_RESULT_UNAVAILABLE
  deriving DecidableEq, Repr

/-- `CertCacheResponseEvent`, with the session it is posted to. -/
structure CertCacheResponse where
  session_id : String
  result : KeyResult
  cert_url : String
  deriving DecidableEq, Repr

/-- `CertCache::entries`. -/
abbrev Entries (Cert : Type) := AList fun _ : String => CertCacheEntry Cert

/-- `CertCache`. -/
structure CertCache (Cert : Type) where
  http_destination : String
  cert_cache_ttl : Int
  cert_cache_failed_ttl : Int
  cert_cache_failed_verify_ttl : Int
  entries : Entries Cert := ∅
  trusted : Trusted Cert := {}
  trusted_repositories : List TrustedRepositoryEntry := []

namespace CertCache

variable {Cert : Type} (botan : BotanX509 Cert) (regex : Regex)

/-- `CertCache::isTrustedRepositoryUnsafe`. -/
def isTrustedRepository (s : CertCache Cert) (url : String) : Bool :=
  s.trusted_repositories.any fun r => regex.regex_match url r.url_pattern

/-- The request of `CertCache::renewCertEntry`; the entry itself is `reset`. -/
def fetch (s : CertCache Cert) (url : String) : HttpGetEvent :=
  ⟨s.http_destination, url, url⟩

/-! ### Calls of the legs -/

/-- `CertCache::checkAndFetch`. -/
def checkAndFetch (s : CertCache Cert) (cert_url session_id : String) :
    CertCache Cert × List HttpGetEvent × Bool :=
  let repository_is_trusted := s.isTrustedRepository regex cert_url
  match s.entries.lookup cert_url with
  | none =>
    if !repository_is_trusted then (s, [], true)
    else
      let entry : CertCacheEntry Cert := { defer_sessions := [session_id] }
      -- `reset` clears the result and not the sessions
      ({ s with entries := s.entries.insert cert_url entry.reset }, [s.fetch cert_url], false)
  | some entry =>
    if !repository_is_trusted then
      if entry.state ≠ .LOADING then
        ({ s with entries := s.entries.erase cert_url }, [], true)
      else (s, [], true)
    -- the session is not put into `defer_sessions` here
    else if entry.state = .LOADING then (s, [], false)
    else (s, [], true)

/-! ### Replies of the HTTP client -/

/-- One pass of the loop that reads the chain: the chain, the exception if one was
    thrown, and the data left.  A certificate that has expired is in the chain when
    the exception is thrown. -/
def readCert (now : Int) (data : List UInt8) (chain : List Cert) :
    List Cert × Option BotanException × List UInt8 :=
  match botan.load data with
  | (some cert, rest) =>
    (chain ++ [cert],
      if botan.not_after cert < now then some ⟨"certificate expired", 0, 1⟩ else none, rest)
  | (none, rest) => (chain, some (botan.loadException data), rest)

/-- `while(!in.end_of_data())`: exceptions are ignored once there is a certificate. -/
def readChain (now : Int) : Nat → List UInt8 → List Cert → List Cert × Option BotanException
  | 0, _, chain => (chain, none)
  | fuel + 1, data, chain =>
    if data.isEmpty then (chain, none)
    else
      match readCert botan now data chain with
      | (chain, some e, rest) =>
        if chain.isEmpty then (chain, some e) else readChain now fuel rest chain
      | (chain, none, rest) => readChain now fuel rest chain

/-- The data are read to their end: more rounds than bytes change nothing. -/
theorem readChain_enough {now : Int} {fuel more : Nat} {data : List UInt8} {chain : List Cert}
    (h : data.length ≤ fuel) :
    readChain botan now (fuel + more) data chain = readChain botan now fuel data chain := by
  -- each round reads a byte at least, so the fuel lasts as long as the data
  induction fuel generalizing data chain with
  | zero =>
    have hnil : data = [] := List.length_eq_zero_iff.mp (Nat.le_zero.mp h)
    subst hnil
    cases more <;> simp [readChain]
  | succ fuel ih =>
    rw [Nat.succ_add, readChain, readChain]
    by_cases hempty : data.isEmpty
    · rw [if_pos hempty, if_pos hempty]
    · rw [if_neg hempty, if_neg hempty]
      have hlt : (readCert botan now data chain).2.2.length < data.length := by
        have hrest : (readCert botan now data chain).2.2 = (botan.load data).2 := by
          unfold readCert
          split <;> simp_all
        rw [hrest]
        exact botan.consumes data (by simpa using hempty)
      split
      · next chain' e rest heq =>
        simp only [heq] at hlt
        rw [ih (by omega)]
      · next chain' rest heq =>
        simp only [heq] at hlt
        rw [ih (by omega)]

/-- The handler for `Botan::Exception`. -/
def unavailable (entry : CertCacheEntry Cert) (e : BotanException) : CertCacheEntry Cert :=
  { entry with
    state := .UNAVAILABLE
    error_str := e.what
    error_code := e.error_code
    error_type := e.error_type }

/-- The `try` block of `processHttpReply`. -/
def validate (s : CertCache Cert) (now : Int) (entry : CertCacheEntry Cert) :
    CertCacheEntry Cert :=
  let data := entry.response_data
  match readChain botan now data.length data entry.cert_chain with
  | (chain, some e) => unavailable { entry with cert_chain := chain } e
  | (chain, none) =>
    let entry := { entry with cert_chain := chain }
    match botan.x509_path_validate chain s.trusted.trusted_certs_store now with
    | .error e => unavailable entry e
    | .ok v =>
      { entry with
        validation_sucessfull := v.successful_validation
        validation_result := v.result_string
        -- the trust root of an earlier reply stays when this one is not valid
        trust_root_cert := if v.successful_validation then v.trust_root else entry.trust_root_cert
        state := if chain.isEmpty then entry.state else .LOADED }

/-- How long an entry is kept after a reply. -/
def ttl (s : CertCache Cert) (entry : CertCacheEntry Cert) : Int :=
  if entry.state = .LOADED then
    if entry.validation_sucessfull then s.cert_cache_ttl else s.cert_cache_failed_verify_ttl
  else s.cert_cache_failed_ttl

/-- `CertCache::processHttpReply`, with the events it posts. -/
def processHttpReply (s : CertCache Cert) (token : String) (data : List UInt8) (now : Int) :
    CertCache Cert × List CertCacheResponse :=
  match s.entries.lookup token with
  | none => (s, [])
  | some entry =>
    let entry := { entry with response_data := data, validation_sucessfull := false }
    let entry := s.validate botan now entry
    let entry := { entry with expire_time := now + s.ttl entry }
    let result :=
      if entry.state = .LOADED then KeyResult.KEY_RESULT_READY else .KEY_RESULT_UNAVAILABLE
    ({ s with entries := s.entries.insert token { entry with defer_sessions := [] } },
      entry.defer_sessions.map fun session_id => ⟨session_id, result, token⟩)

/-! ### Timer and administration -/

/-- What a pass over the entries does with one of them: keep it, `renewCertEntry`
    or erase it. -/
inductive Treatment where
  | keep
  | renew
  | erase
  deriving DecidableEq, Repr

/-- A loop over all entries. -/
def forEach (s : CertCache Cert) (treat : String → CertCacheEntry Cert → Treatment) :
    CertCache Cert × List HttpGetEvent :=
  ({ s with entries := s.entries.sweep fun url entry =>
      match treat url entry with
      | .keep => some entry
      | .renew => some entry.reset
      | .erase => none },
    s.entries.entries.filterMap fun e =>
      if treat e.1 e.2 = .renew then some (s.fetch e.1) else none)

/-- `CertCache::onTimer`. -/
def onTimer (s : CertCache Cert) (now : Int) : CertCache Cert × List HttpGetEvent :=
  s.forEach fun url entry =>
    if entry.state = .LOADING then .keep
    else if s.isTrustedRepository regex url then
      if now > entry.expire_time then .renew else .keep
    else .erase

/-- The arguments of an RPC method: `none` when they are no array, and an argument is
    `none` when it is no string.  Either throws when it is used. -/
abbrev UrlArgs := Option (List (Option String))

/-- The loop of `ClearCerts` over its arguments. -/
def clearLoop (s : CertCache Cert) (ret : Nat) :
    List (Option String) → CertCache Cert × Option Nat
  | [] => (s, some ret)
  | none :: _ => (s, none)
  | some url :: args =>
    if (s.entries.lookup url).isSome then
      clearLoop { s with entries := s.entries.erase url } (ret + 1) args
    else clearLoop s ret args

/-- `CertCache::ClearCerts`; the result is `none` when it throws. -/
def ClearCerts (s : CertCache Cert) (args : UrlArgs) : CertCache Cert × Option Nat :=
  match args with
  | none => (s, none)
  | some [] => ({ s with entries := ∅ }, some s.entries.keys.length)
  | some args => s.clearLoop 0 args

/-- The loop of `RenewCerts` over its arguments. -/
def renewLoop (s : CertCache Cert) (ret : Nat) :
    List (Option String) → CertCache Cert × List HttpGetEvent × Option Nat
  | [] => (s, [], some ret)
  | none :: _ => (s, [], none)
  | some cert_url :: args =>
    let repository_is_trusted := s.isTrustedRepository regex cert_url
    match s.entries.lookup cert_url with
    | some entry =>
      if !repository_is_trusted then
        -- the entry goes, with the sessions that wait for it
        renewLoop { s with entries := s.entries.erase cert_url } ret args
      else
        let r := renewLoop { s with entries := s.entries.insert cert_url entry.reset }
          (ret + 1) args
        (r.1, s.fetch cert_url :: r.2.1, r.2.2)
    | none =>
      if !repository_is_trusted then renewLoop s ret args
      else
        let entry : CertCacheEntry Cert := {}
        let r := renewLoop { s with entries := s.entries.insert cert_url entry.reset }
          (ret + 1) args
        (r.1, s.fetch cert_url :: r.2.1, r.2.2)

/-- `CertCache::RenewCerts`; the result is `none` when it throws. -/
def RenewCerts (s : CertCache Cert) (args : UrlArgs) :
    CertCache Cert × List HttpGetEvent × Option Nat :=
  if s.http_destination.isEmpty then (s, [], none)
  else
    match args with
    | none => (s, [], none)
    -- without arguments all entries are treated, and those left are counted
    | some [] =>
      let r := s.forEach fun url _ => if s.isTrustedRepository regex url then .renew else .erase
      (r.1, r.2, some r.1.entries.keys.length)
    | some args => s.renewLoop regex 0 args

/-- A row of `reloadTrustedRepositories`; a field is `none` when `AmArg` has another
    type for it. -/
structure RepositoryRow where
  id : Option Int
  url_pattern : Option String
  validate_https_certificate : Option Bool
  deriving DecidableEq, Repr

/-- The loop over the rows, which stops at a field of the wrong type. -/
def repositoryLoop (rs : List TrustedRepositoryEntry) :
    List RepositoryRow → List TrustedRepositoryEntry
  | [] => rs
  | ⟨some id, some url_pattern, some validate⟩ :: rows =>
    if regex.compiles url_pattern then repositoryLoop (rs ++ [⟨id, url_pattern, validate⟩]) rows
    else repositoryLoop rs rows
  | _ :: _ => rs

/-- `CertCache::reloadTrustedRepositories`; `data` is `none` when it is no array. -/
def reloadTrustedRepositories (s : CertCache Cert) (data : Option (List RepositoryRow)) :
    CertCache Cert :=
  match data with
  | none => { s with trusted_repositories := [] }
  | some rows => { s with trusted_repositories := repositoryLoop regex [] rows }

end CertCache

end Yeti.Certs
