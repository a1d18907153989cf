import Mathlib.Data.List.TakeWhile
import Yeti.Config.Answers

/-! # Reloads are all or nothing

    When a handler throws, the configuration that it manages should be what it was, and
    else a function of the data.  The handlers that swap a container in are such.  Those of
    `CertCache` clear theirs first, and what they have filled stays when a row throws; the
    store of trusted certificates is not cleared at all.

    The rows that count are those before the first one that throws.
-/

namespace Yeti.Config

open Certs Call

/-! ### What is claimed -/

namespace Configuration

variable {Cert Key Subnet Tree : Type} [DecidableEq Cert] (lib : Library Cert Key Subnet Tree)

/-- Two configurations agree on what the handler manages.  The store of certificates is a set. -/
def Same (h : Handler) (c c' : Configuration Cert Key Subnet Tree) : Prop :=
  match h with
  | .reloadTrustedCertificates =>
    c.cert_cache.trusted.trusted_certs = c'.cert_cache.trusted.trusted_certs ∧
      ∀ cert, cert ∈ c.cert_cache.trusted.trusted_certs_store ↔
        cert ∈ c'.cert_cache.trusted.trusted_certs_store
  | .reloadTrustedRepositories =>
    c.cert_cache.trusted_repositories = c'.cert_cache.trusted_repositories
  | .reloadSigningKeys => c.signing_keys = c'.signing_keys
  | .reloadLoadBalancers => c.load_balancers = c'.load_balancers
  | .reloadLoadIPAuth => c.ip_auths = c'.ip_auths ∧ c.subnets_tree = c'.subnets_tree
  | .load_disconnect_code_rerouting => c.replies.code2pref = c'.replies.code2pref
  | .load_disconnect_code_rewrite => c.replies.code2trans = c'.replies.code2trans
  | .load_disconnect_code_refuse => c.codes.icode2resp = c'.codes.icode2resp
  | .load_disconnect_code_refuse_overrides =>
    c.codes.icode2resp_overrides = c'.codes.icode2resp_overrides
  | .load_disconnect_code_rerouting_overrides =>
    c.replies.code2prefs_overrides = c'.replies.code2prefs_overrides
  | .load_disconnect_code_rewrite_overrides =>
    c.replies.code2trans_overrides = c'.replies.code2trans_overrides
  | .reload_credentials => c.credentials = c'.credentials

/-- Nothing is loaded. -/
def started : Configuration Cert Key Subnet Tree where
  cert_cache := ⟨"", 0, 0, 0, ∅, {}, []⟩
  subnets_tree := lib.cleared
  codes := ⟨[], [], false, 0⟩

/-- After an exception the configuration is what it was.  Else it is what the data give when
    nothing is loaded. -/
def AllOrNothing (c : Configuration Cert Key Subnet Tree) (h : Handler) (data : AmArg) : Prop :=
  ((c.on_db_response lib h data).2 = true → Same h (c.on_db_response lib h data).1 c) ∧
  ((c.on_db_response lib h data).2 = false →
    Same h (c.on_db_response lib h data).1 ((started lib).on_db_response lib h data).1)

end Configuration

/-! ### The condition -/

section Rows

variable {E : Type} (read : AmArg → Except Thrown (Option E))

/-- The row can be read. -/
def readable (a : AmArg) : Bool := (read a).isOk

/-- The entry of a row. -/
def entryAt? (a : AmArg) : Option E :=
  match read a with
  | .ok entry => entry
  | .error _ => none

/-- The entries of the rows before the first one that throws. -/
def entriesBefore (rows : List AmArg) : List E :=
  (rows.takeWhile (readable read)).filterMap (entryAt? read)

end Rows

/-- The entry of a repository whose pattern is taken. -/
def repository? (regex : Regex) (r : CertCache.RepositoryRow) : Option TrustedRepositoryEntry :=
  match r with
  | ⟨some id, some url_pattern, some validate⟩ =>
    if regex.compiles url_pattern then some ⟨id, url_pattern, validate⟩ else none
  | _ => none

section Certificates

variable {Cert : Type} (botan : Botan Cert)

/-- All columns of a certificate can be read. -/
def certReadable (r : CertRow) : Bool := r.id.isSome && r.name.isSome && r.certificate.isSome

/-- The certificates of a row. -/
def certsOf (r : CertRow) : List Cert := readCerts botan (r.certificate.getD [])

/-- The entry of a row. -/
def certEntry (r : CertRow) : TrustedCertEntry Cert :=
  ⟨r.id.getD 0, r.name.getD "", certsOf botan r⟩

/-- The entry that a row has appended when its certificate cannot be read. -/
def openedEntry (r : CertRow) : Option (TrustedCertEntry Cert) :=
  match r.id, r.name with
  | some id, some name => some ⟨id, name, []⟩
  | _, _ => none

/-- The entries when a row throws, or none does. -/
def certEntries (rows : List CertRow) : List (TrustedCertEntry Cert) :=
  (rows.takeWhile certReadable).map (certEntry botan) ++
    ((rows.dropWhile certReadable).head?.bind openedEntry).toList

end Certificates

namespace Configuration

variable {Cert Key Subnet Tree : Type} [DecidableEq Cert] (lib : Library Cert Key Subnet Tree)

/-- The condition.  Where a row throws, the configuration was already what the rows before it
    give; the store of certificates had nothing that the data do not have. -/
def Restores (c : Configuration Cert Key Subnet Tree) (h : Handler) (data : AmArg) : Prop :=
  match h with
  | .reloadTrustedCertificates =>
    let rows := data.rows.map lib.certRow
    let trusted := c.cert_cache.trusted
    if rows.all certReadable then
      ∀ cert ∈ trusted.trusted_certs_store, ∃ r ∈ rows, cert ∈ certsOf lib.botan r
    else
      trusted.trusted_certs = certEntries lib.botan rows ∧
        ∀ r ∈ rows.takeWhile certReadable, ∀ cert ∈ certsOf lib.botan r,
          cert ∈ trusted.trusted_certs_store
  | .reloadTrustedRepositories =>
    let rows := data.rows.map lib.repositoryRow
    rows.all repositoryReadable = true ∨ c.cert_cache.trusted_repositories =
      (rows.takeWhile repositoryReadable).filterMap (repository? lib.regex)
  | .reloadSigningKeys =>
    data.rows.all (readable lib.signingKey) = true ∨
      c.signing_keys = (entriesBefore lib.signingKey data.rows).foldl try_emplace []
  | _ => True

end Configuration

/-! ### Loops -/

theorem fill_eq {E C : Type} (read : AmArg → Except Thrown (Option E)) (add : C → E → C)
    (rows : List AmArg) (c : C) :
    (fill read add c rows).1 = (entriesBefore read rows).foldl add c ∧
      (fill read add c rows).2.isSome = !rows.all (readable read) := by
  induction rows generalizing c with
  | nil => exact ⟨rfl, rfl⟩
  | cons a rows ih =>
    unfold fill entriesBefore
    cases hread : read a with
    | error e =>
      have hthrows : readable read a = false := by simp [readable, hread, Except.isOk, Except.toBool]
      simp [hthrows]
    | ok entry =>
      have hreads : readable read a = true := by simp [readable, hread, Except.isOk, Except.toBool]
      have hentry : entryAt? read a = entry := by simp [entryAt?, hread]
      rw [List.takeWhile_cons_of_pos hreads, List.all_cons, hreads, Bool.true_and]
      cases entry with
      | none =>
        rw [List.filterMap_cons_none hentry]
        exact ih c
      | some e =>
        rw [List.filterMap_cons_some hentry, List.foldl_cons]
        exact ih (add c e)

theorem repositoryLoop_eq (regex : Regex) (rows : List CertCache.RepositoryRow)
    (rs : List TrustedRepositoryEntry) :
    CertCache.repositoryLoop regex rs rows =
      rs ++ (rows.takeWhile Configuration.repositoryReadable).filterMap (repository? regex) := by
  induction rows generalizing rs with
  | nil => simp [CertCache.repositoryLoop]
  | cons r rows ih =>
    obtain ⟨id, url_pattern, validate⟩ := r
    cases id with
    | none => simp [CertCache.repositoryLoop, Configuration.repositoryReadable]
    | some id =>
      cases url_pattern with
      | none => simp [CertCache.repositoryLoop, Configuration.repositoryReadable]
      | some url_pattern =>
        cases validate with
        | none => simp [CertCache.repositoryLoop, Configuration.repositoryReadable]
        | some validate =>
          unfold CertCache.repositoryLoop
          rw [List.takeWhile_cons_of_pos (by rfl)]
          split_ifs with hcompiles
          · rw [ih, List.filterMap_cons_some (by simp [repository?, hcompiles]; rfl)]
            simp
          · rw [ih, List.filterMap_cons_none (by simp [repository?, hcompiles])]

section Certificates

variable {Cert : Type} (botan : Botan Cert)

theorem certEntries_cons_of_readable {a : CertRow} (h : certReadable a = true) (rows : List CertRow) :
    certEntries botan (a :: rows) = certEntry botan a :: certEntries botan rows := by
  unfold certEntries
  rw [List.takeWhile_cons_of_pos h, List.dropWhile_cons_of_pos h]
  rfl

theorem certEntries_cons_of_throws {a : CertRow} (h : ¬ certReadable a = true)
    (rows : List CertRow) : certEntries botan (a :: rows) = (openedEntry a).toList := by
  unfold certEntries
  rw [List.takeWhile_cons_of_neg h, List.dropWhile_cons_of_neg h]
  rfl

variable [DecidableEq Cert]

/-- A row that is read: its certificates go to the entry and to the store. -/
theorem reloadRows_of_readable {a : CertRow} (h : certReadable a = true) (rows : List CertRow)
    (s : Trusted Cert) : reloadRows botan s (a :: rows) =
      reloadRows botan ((certsOf botan a).foldl Trusted.add_certificate
        { s with trusted_certs := s.trusted_certs ++ [certEntry botan a] }) rows := by
  obtain ⟨id, name, certificate⟩ := a
  simp only [certReadable, Bool.and_eq_true, Option.isSome_iff_exists] at h
  obtain ⟨⟨⟨id, rfl⟩, name, rfl⟩, cert_data, rfl⟩ := h
  rfl

/-- A row that throws: an entry may have been appended. -/
theorem reloadRows_of_throws {a : CertRow} (h : ¬ certReadable a = true) (rows : List CertRow)
    (s : Trusted Cert) : reloadRows botan s (a :: rows) =
      ({ s with trusted_certs := s.trusted_certs ++ (openedEntry a).toList }, false) := by
  obtain ⟨id, name, certificate⟩ := a
  cases id with
  | none => simp [reloadRows, openedEntry]
  | some id =>
    cases name with
    | none => simp [reloadRows, openedEntry]
    | some name =>
      cases certificate with
      | none => simp [reloadRows, openedEntry]
      | some cert_data => exact absurd rfl h

theorem reloadRows_eq (rows : List CertRow) (s : Trusted Cert) :
    (reloadRows botan s rows).1.trusted_certs = s.trusted_certs ++ certEntries botan rows ∧
      (∀ cert, cert ∈ (reloadRows botan s rows).1.trusted_certs_store ↔
        cert ∈ s.trusted_certs_store ∨
          ∃ r ∈ rows.takeWhile certReadable, cert ∈ certsOf botan r) ∧
      (reloadRows botan s rows).2 = rows.all certReadable := by
  induction rows generalizing s with
  | nil => simp [reloadRows, certEntries]
  | cons a rows ih =>
    by_cases hreads : certReadable a = true
    · obtain ⟨hlist, hstore⟩ := foldl_add_certificate (certsOf botan a)
        { s with trusted_certs := s.trusted_certs ++ [certEntry botan a] }
      obtain ⟨ihlist, ihstore, ihflag⟩ := ih ((certsOf botan a).foldl Trusted.add_certificate
        { s with trusted_certs := s.trusted_certs ++ [certEntry botan a] })
      rw [reloadRows_of_readable botan hreads]
      refine ⟨?_, fun cert => ?_, ?_⟩
      · rw [ihlist, hlist, certEntries_cons_of_readable botan hreads, List.append_assoc]
        rfl
      · rw [ihstore cert, hstore cert, List.takeWhile_cons_of_pos hreads, List.exists_mem_cons_iff,
          or_assoc]
      · rw [ihflag, List.all_cons, hreads, Bool.true_and]
    · have hthrows : certReadable a = false := by simpa using hreads
      rw [reloadRows_of_throws botan hreads, certEntries_cons_of_throws botan hreads,
        List.takeWhile_cons_of_neg hreads, List.all_cons, hthrows]
      simp

end Certificates

/-! ### Handlers -/

namespace Configuration

variable {Cert Key Subnet Tree : Type} [DecidableEq Cert] {lib : Library Cert Key Subnet Tree}
variable {c : Configuration Cert Key Subnet Tree} {data : AmArg}

/-- The handlers that swap are all or nothing. -/
theorem allOrNothing_of_swapIn {E C : Type} {h : Handler}
    {read : AmArg → Except Thrown (Option E)} {add : C → E → C} {empty : C}
    {swap : Configuration Cert Key Subnet Tree → C → Configuration Cert Key Subnet Tree}
    (hswap : ∀ c, on_db_response lib c h data = c.swapIn read add empty data (swap c))
    (hsame : ∀ c c' tmp, Same h (swap c tmp) (swap c' tmp)) (hrefl : Same h c c) :
    c.AllOrNothing lib h data := by
  unfold AllOrNothing
  rw [hswap, hswap]
  unfold swapIn
  split
  · refine ⟨fun _ => hrefl, fun hflag => ?_⟩
    cases hflag
  · refine ⟨fun hflag => ?_, fun _ => hsame c _ _⟩
    cases hflag

theorem allOrNothing_reloadSigningKeys :
    c.AllOrNothing lib .reloadSigningKeys data ↔ c.Restores lib .reloadSigningKeys data := by
  have hfill := fill_eq lib.signingKey try_emplace data.rows []
  have hflag : (c.on_db_response lib .reloadSigningKeys data).2 =
      !data.rows.all (readable lib.signingKey) := hfill.2
  have hkeys : ∀ c : Configuration Cert Key Subnet Tree,
      (c.on_db_response lib .reloadSigningKeys data).1.signing_keys =
        (entriesBefore lib.signingKey data.rows).foldl try_emplace [] := fun _ => hfill.1
  unfold AllOrNothing Restores
  simp only [Same, hflag, hkeys]
  cases data.rows.all (readable lib.signingKey) with
  | true => simp
  | false => simp [eq_comm]

theorem allOrNothing_reloadTrustedRepositories :
    c.AllOrNothing lib .reloadTrustedRepositories data ↔
      c.Restores lib .reloadTrustedRepositories data := by
  have hlist : ∀ c : Configuration Cert Key Subnet Tree,
      (c.on_db_response lib .reloadTrustedRepositories data).1.cert_cache.trusted_repositories =
        ((data.rows.map lib.repositoryRow).takeWhile repositoryReadable).filterMap
          (repository? lib.regex) := by
    intro c
    show (c.cert_cache.reloadTrustedRepositories lib.regex
      (data.rows?.map (List.map lib.repositoryRow))).trusted_repositories = _
    unfold AmArg.rows
    cases data.rows? with
    | none => rfl
    | some rows =>
      show CertCache.repositoryLoop lib.regex [] (rows.map lib.repositoryRow) = _
      rw [repositoryLoop_eq]
      rfl
  have hflag : (c.on_db_response lib .reloadTrustedRepositories data).2 =
      !(data.rows.map lib.repositoryRow).all repositoryReadable := rfl
  unfold AllOrNothing Restores
  simp only [Same, hflag, hlist]
  cases (data.rows.map lib.repositoryRow).all repositoryReadable with
  | true => simp
  | false => simp [eq_comm]

/-- What is left behind, whether a row throws or none does. -/
theorem reloadTrustedCertificates_eq (lib : Library Cert Key Subnet Tree)
    (c : Configuration Cert Key Subnet Tree) (data : AmArg) :
    let rows := data.rows.map lib.certRow
    let r := c.on_db_response lib .reloadTrustedCertificates data
    r.1.cert_cache.trusted.trusted_certs = certEntries lib.botan rows ∧
      (∀ cert, cert ∈ r.1.cert_cache.trusted.trusted_certs_store ↔
        cert ∈ c.cert_cache.trusted.trusted_certs_store ∨
          ∃ r ∈ rows.takeWhile certReadable, cert ∈ certsOf lib.botan r) ∧
      r.2 = !rows.all certReadable := by
  intro rows r
  cases hdata : data.rows? with
  | none =>
    have hempty : rows = [] := by simp [rows, AmArg.rows, hdata]
    rw [hempty]
    simp [r, on_db_response, reloadTrustedCertificates, Certs.reloadTrustedCertificates, hdata,
      certEntries]
  | some l =>
    have hrows : rows = l.map lib.certRow := by simp [rows, AmArg.rows, hdata]
    obtain ⟨hlist, hstore, hflag⟩ := reloadRows_eq lib.botan (l.map lib.certRow)
      { c.cert_cache.trusted with trusted_certs := [] }
    rw [hrows]
    simp only [r, on_db_response, reloadTrustedCertificates, Certs.reloadTrustedCertificates, hdata,
      Option.map_some]
    exact ⟨hlist, hstore, by rw [hflag]⟩

theorem allOrNothing_reloadTrustedCertificates :
    c.AllOrNothing lib .reloadTrustedCertificates data ↔
      c.Restores lib .reloadTrustedCertificates data := by
  obtain ⟨hlist, hstore, hflag⟩ := reloadTrustedCertificates_eq lib c data
  obtain ⟨hlist', hstore', -⟩ := reloadTrustedCertificates_eq lib (started lib) data
  unfold AllOrNothing Restores
  simp only [Same, hflag, hlist, hlist', hstore, hstore']
  generalize data.rows.map lib.certRow = rows
  by_cases hall : rows.all certReadable = true
  · -- no row throws: what was in the store before is still there
    have htake : rows.takeWhile certReadable = rows :=
      List.takeWhile_eq_self_iff.mpr (List.all_eq_true.mp hall)
    rw [if_pos hall, hall, htake]
    simp [started]
  · have hthrows : rows.all certReadable = false := by simpa using hall
    rw [if_neg hall, hthrows]
    constructor
    · intro hclaim
      obtain ⟨hcerts, hkept⟩ := hclaim.1 rfl
      exact ⟨hcerts.symm, fun r hr cert hcert => (hkept cert).mp (.inr ⟨r, hr, hcert⟩)⟩
    · intro ⟨hcerts, hknown⟩
      refine ⟨fun _ => ⟨hcerts.symm, fun cert => ?_⟩, fun hflag => absurd hflag (by decide)⟩
      constructor
      · rintro (hcert | ⟨r, hr, hcert⟩)
        · exact hcert
        · exact hknown r hr cert hcert
      · exact .inl

/-- **All or nothing**: nine handlers always are, the other three exactly under the condition. -/
theorem allOrNothing_iff_restores (lib : Library Cert Key Subnet Tree)
    (c : Configuration Cert Key Subnet Tree) (h : Handler) (data : AmArg) :
    c.AllOrNothing lib h data ↔ c.Restores lib h data := by
  cases h with
  | reloadTrustedCertificates => exact allOrNothing_reloadTrustedCertificates
  | reloadTrustedRepositories => exact allOrNothing_reloadTrustedRepositories
  | reloadSigningKeys => exact allOrNothing_reloadSigningKeys
  | reloadLoadIPAuth =>
    exact iff_of_true
      (allOrNothing_of_swapIn (fun _ => rfl) (fun _ _ _ => ⟨rfl, rfl⟩) ⟨rfl, rfl⟩) trivial
  | _ => exact iff_of_true (allOrNothing_of_swapIn (fun _ => rfl) (fun _ _ _ => rfl) rfl) trivial

end Configuration

/-! ### A row that throws -/

namespace AnswerExample

/-- The accessors, for the types that the columns have. -/
def acc : Accessors where
  index a key :=
    match a with
    | .struct fields => (fields.lookup key).elim (.error .OutOfBoundsException) .ok
    | _ => .error .TypeMismatchException
  asInt
    | .int v => .ok v
    | _ => .error .TypeMismatchException
  asNumber
    | .int v => .ok v.toNat
    | _ => .error .TypeMismatchException
  asBool
    | .bool v => .ok v
    | _ => .error .TypeMismatchException
  asCStr
    | .cstr v => .ok v
    | _ => .error .TypeMismatchException

/-- Patterns and addresses are taken as they are. -/
def lib : Library UInt8 String String (List (String × Nat)) where
  acc := acc
  botan := byteBotan
  regex := ⟨fun _ => true, fun url pattern => url == pattern⟩
  load_key := some
  parse := some
  cleared := []
  addSubnet tree subnet idx := tree ++ [(subnet, idx)]

/-- The repository that was loaded. -/
def loaded : Configuration UInt8 String String (List (String × Nat)) where
  cert_cache := ⟨"", 0, 0, 0, ∅, {}, [⟨1, "https://cr.example/.*", true⟩]⟩
  subnets_tree := []
  codes := ⟨[], [], false, 0⟩

/-- A row without a pattern. -/
def nullPattern : AmArg := .array
  [.struct [("id", .int 1), ("url_pattern", .undef), ("validate_https_certificate", .bool true)]]

end AnswerExample

open AnswerExample in
/-- The handler throws, and no repository is trusted any more. -/
theorem not_allOrNothing_nullPattern :
    ¬ ∀ (lib : Library UInt8 String String (List (String × Nat)))
      (c : Configuration UInt8 String String (List (String × Nat))) (h : Handler) (data : AmArg),
      c.AllOrNothing lib h data := by
  intro hall
  have hsame : (loaded.on_db_response lib .reloadTrustedRepositories
      nullPattern).1.cert_cache.trusted_repositories = loaded.cert_cache.trusted_repositories :=
    (hall lib loaded .reloadTrustedRepositories nullPattern).1 rfl
  exact absurd hsame (by decide)

end Yeti.Config
