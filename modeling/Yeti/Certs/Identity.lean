import Yeti.Certs.Notification
import Yeti.Headers.Reading

/-! # Identity headers

    Model of the start of a call: `SBCCallLeg::onInvite` reads the `Identity` headers
    of the request and asks the cache for the certificate of each one, and
    `onIdentityReady` verifies them and requests the routing.  In between the leg
    awaits the certificates that were not there, one `CertCacheResponseEvent` each.

    The system is the cache, its requests, any number of legs, and the events that
    were posted to them.  One call of `addIdentityHdr` is one step, so that replies,
    timers and commands of the administration come between two headers of a request.
    Counters and logs are left out, and so is what the routing does.
-/

open LTS

namespace Yeti.Certs

open Headers

/-! ### Parts that come from libraries -/

/-- `AmIdentity`, the public keys of Botan, and the string helpers of the SIP stack. -/
structure IdentityLib (Identity Cert Key : Type) where
  /-- The identity after `parse`, and what `parse` returns. -/
  parse : List Char → Identity × Bool
  get_x5u_url : Identity → String
  /-- The last error after `parse`. -/
  get_last_error : Identity → Int × String
  get_parsed_header : Identity → String
  get_parsed_payload : Identity → String
  /-- `verify` with the key, the lifetime and the time; an error is the last one of the
      identity. -/
  verify : Identity → Key → (expires now : Int) → Except (Int × String) Unit
  subject_public_key : Cert → Key
  /-- `explode(value, ",", false)`. -/
  explode : List Char → List (List Char)
  /-- `trim(value, " \n")`. -/
  trim : List Char → List Char

/-- The options that `onIdentityReady` looks at. -/
structure IdentityCfg where
  identity_enabled : Bool
  /-- `CertCache::expires`. -/
  expires : Int

/-- `CertCache::getPubKey`: the certificate whose key is used, and `cert_is_valid`. -/
def CertCache.getPubKey {Cert : Type} (s : CertCache Cert) (cert_url : String) :
    Option (Cert × Bool) :=
  match s.entries.lookup cert_url with
  | none => none
  | some entry =>
    if entry.state ≠ .LOADED then none
    -- `cert_chain[0]`: an entry that is loaded has a certificate
    else entry.cert_chain.head?.map (·, entry.validation_sucessfull)

/-! ### A leg -/

/-- An element of `identity_headers`. -/
structure IdentityHeader (Identity : Type) where
  raw_header_value : List Char
  identity : Identity
  parsed : Bool
  deriving DecidableEq, Repr

/-- An element of `identity_data`. -/
structure IdentityRow where
  parsed : Bool
  raw : Option (List Char) := none
  header : Option String := none
  payload : Option String := none
  error : Option (Int × String) := none
  verified : Bool
  deriving DecidableEq, Repr

/-- How far a leg is. -/
inductive IdentityStage where
  /-- In `onInvite`, with the values it has not added yet; a header that cannot be
      parsed may follow them. -/
  | onInvite (unread : List (List Char)) (malformed : Bool)
  /-- `onInvite` has returned. -/
  | invited
  /-- `onInvite` has replied with 500 and set the leg stopped. -/
  | refused
  /-- The session is gone. -/
  | destroyed
  deriving DecidableEq, Repr

/-- `SBCCallLeg`, as far as it deals with identities. -/
structure IdentityLeg (Identity : Type) where
  /-- The headers of the request. -/
  uac_req : List Char
  /-- Of `ip_auth_data`. -/
  require_identity_parsing : Bool
  stage : IdentityStage
  identity_headers : List (IdentityHeader Identity) := []
  /-- A set of URLs. -/
  awaited_identity_certs : List String := []
  identity_data : List IdentityRow := []
  /-- The calls of `db_async_get_profiles` by `onIdentityReady`, each for a new `CallCtx`,
      with the identity data passed. -/
  routed : List (Option (List IdentityRow)) := []
  deriving DecidableEq, Repr

section Leg

variable {Identity Cert Key : Type} (lib : IdentityLib Identity Cert Key)

/-- `identity_header_name`. -/
def identity_header_name : List Char := "identity".toList

/-- The values that one `Identity` header has. -/
def identityValues (hdr_value : List Char) : List (List Char) :=
  if ',' ∈ hdr_value then (lib.explode hdr_value).map lib.trim else [lib.trim hdr_value]

/-- The loop of `SBCCallLeg::onInvite`: the values for `addIdentityHdr`, and whether the
    loop ends at a header that cannot be parsed. -/
def identityLoop (pc : ParseCommon) (hdrs : List Char) : Nat → Nat → List (List Char) × Bool
  | 0, _ => ([], false)
  | fuel + 1, start_pos =>
    if start_pos < hdrs.length then
      let h := skip_header pc hdrs start_pos
      if h.malformed then ([], true)
      else
        let hdr_name := (substr hdrs start_pos (sizeSub h.name_end start_pos)).map Char.toLower
        let values :=
          if hdr_name = identity_header_name then identityValues lib (value hdrs h) else []
        let r := identityLoop pc hdrs fuel h.hdr_end
        (values ++ r.1, r.2)
    else ([], false)

/-- What `addIdentityHdr` puts into `identity_headers`. -/
def identityHeader (header_value : List Char) : IdentityHeader Identity :=
  let r := lib.parse header_value
  ⟨header_value, r.1, r.2⟩

/-- The URL that `addIdentityHdr` looks up. -/
def certUrl (header_value : List Char) : Option String :=
  let e := identityHeader lib header_value
  if !e.parsed then none
  else
    let cert_url := lib.get_x5u_url e.identity
    if cert_url.isEmpty then none else some cert_url

/-- One pass of the loop of `onIdentityReady`. -/
def verifyHeader (cfg : IdentityCfg) (regex : Regex) (cache : CertCache Cert) (now : Int)
    (e : IdentityHeader Identity) : IdentityRow :=
  if !e.parsed then
    { parsed := false
      error := some (lib.get_last_error e.identity)
      verified := false
      raw := some e.raw_header_value }
  else
    let a : IdentityRow := {
      parsed := true
      header := some (lib.get_parsed_header e.identity)
      payload := some (lib.get_parsed_payload e.identity)
      verified := false }
    let cert_url := lib.get_x5u_url e.identity
    match cache.getPubKey cert_url with
    | some (cert, cert_is_valid) =>
      if cert_is_valid then
        match lib.verify e.identity (lib.subject_public_key cert) cfg.expires now with
        | .ok () => { a with verified := true }
        | .error error => { a with error := some error }
      else { a with error := some (-1, "certificate is not valid") }
    | none =>
      if !cache.isTrustedRepository regex cert_url then
        { a with error := some (-1, "x5u is not in trusted repositories") }
      else { a with error := some (-1, "certificate is not available") }

/-- `SBCCallLeg::onIdentityReady`. -/
def IdentityLeg.onIdentityReady (leg : IdentityLeg Identity) (cfg : IdentityCfg) (regex : Regex)
    (cache : CertCache Cert) (now : Int) : IdentityLeg Identity :=
  if cfg.identity_enabled then
    let identity_data :=
      leg.identity_data ++ leg.identity_headers.map (verifyHeader lib cfg regex cache now)
    { leg with
      identity_data := identity_data
      routed := leg.routed ++ [some identity_data] }
  else { leg with routed := leg.routed ++ [none] }

/-- `SBCCallLeg::onCertCacheReply`. -/
def IdentityLeg.onCertCacheReply (leg : IdentityLeg Identity) (cfg : IdentityCfg) (regex : Regex)
    (cache : CertCache Cert) (now : Int) (e : CertCacheResponse) : IdentityLeg Identity :=
  let leg := { leg with
    awaited_identity_certs := leg.awaited_identity_certs.filter (· ≠ e.cert_url) }
  if leg.awaited_identity_certs.isEmpty then leg.onIdentityReady lib cfg regex cache now else leg

end Leg

/-! ### The system -/

/-- The cache with its requests, the legs, and the events posted to them. -/
structure Identifying (Identity Cert : Type) where
  fetching : Fetching Cert
  legs : String → Option (IdentityLeg Identity) := fun _ => none
  /-- The queues of all legs; each leg takes its own events in order. -/
  events : List CertCacheResponse := []

/-- Labels of the start of calls. -/
inductive IdentityLabel where
  /-- A step of the cache that no leg asks for. -/
  | cache (l : CacheLabel)
  /-- An INVITE makes a leg with a new tag. -/
  | onInvite (ltag : String) (hdrs : List Char) (require_identity_parsing : Bool) (now : Int)
  /-- The leg adds the next `Identity` header of its request. -/
  | addIdentityHdr (ltag : String)
  /-- The loop over the headers of the request ends. -/
  | endOfHeaders (ltag : String) (now : Int)
  /-- The leg takes the next event from its queue. -/
  | onCertCacheReply (ltag : String) (now : Int)
  | destroy (ltag : String)
  deriving DecidableEq, Repr

namespace Identifying

variable {Identity Cert Key : Type} [DecidableEq Cert]
  (lib : IdentityLib Identity Cert Key) (cfg : IdentityCfg) (pc : ParseCommon)
  (botan : BotanX509 Cert) (regex : Regex)

/-- The leg with tag `ltag` becomes `leg`. -/
def setLeg (s : Identifying Identity Cert) (ltag : String) (leg : IdentityLeg Identity) :
    Identifying Identity Cert :=
  { s with legs := Function.update s.legs ltag (some leg) }

/-- `postEvent` finds the queue of the session. -/
def hasQueue (s : Identifying Identity Cert) (ltag : String) : Bool :=
  (s.legs ltag).any (·.stage ≠ .destroyed)

/-- The events that a step of the cache posts. -/
def posted (s : Identifying Identity Cert) : CacheLabel → List CertCacheResponse
  | .processHttpReply i data now =>
    match s.fetching.fetches[i]? with
    | none => []
    | some f =>
      (s.fetching.cache.processHttpReply botan f.token data now).2.filter
        fun e => s.hasQueue e.session_id
  | _ => []

/-- A step of the cache. -/
def cacheStep (s : Identifying Identity Cert) (l : CacheLabel) :
    Option (Identifying Identity Cert) :=
  match l with
  -- only legs call `checkAndFetch`
  | .checkAndFetch _ _ => none
  | l => (s.fetching.next botan regex l).map fun fetching =>
    { s with fetching := fetching, events := s.events ++ s.posted botan l }

/-- A new leg. -/
def inviteStep (s : Identifying Identity Cert) (ltag : String) (hdrs : List Char)
    (require_identity_parsing : Bool) (now : Int) : Option (Identifying Identity Cert) :=
  match s.legs ltag with
  | some _ => none
  | none =>
    if cfg.identity_enabled && require_identity_parsing then
      let r := identityLoop lib pc hdrs hdrs.length 0
      some (s.setLeg ltag ⟨hdrs, require_identity_parsing, .onInvite r.1 r.2, [], [], [], []⟩)
    else
      let leg := ⟨hdrs, require_identity_parsing, .invited, [], [], [], []⟩
      some (s.setLeg ltag (IdentityLeg.onIdentityReady lib leg cfg regex s.fetching.cache now))

/-- `SBCCallLeg::addIdentityHdr`. -/
def addStep (s : Identifying Identity Cert) (ltag : String) :
    Option (Identifying Identity Cert) :=
  match s.legs ltag with
  | none => none
  | some leg =>
    match leg.stage with
    | .onInvite (header_value :: unread) malformed =>
      let leg := { leg with
        stage := .onInvite unread malformed
        identity_headers := leg.identity_headers ++ [identityHeader lib header_value] }
      match certUrl lib header_value with
      | none => some (s.setLeg ltag leg)
      | some cert_url =>
        let ready := (s.fetching.cache.checkAndFetch regex cert_url ltag).2.2
        let leg :=
          if ready then leg
          else { leg with
            awaited_identity_certs := leg.awaited_identity_certs.insert cert_url }
        some { s.setLeg ltag leg with fetching := s.fetching.check regex cert_url ltag }
    | _ => none

/-- The rest of `SBCCallLeg::onInvite`. -/
def endStep (s : Identifying Identity Cert) (ltag : String) (now : Int) :
    Option (Identifying Identity Cert) :=
  match s.legs ltag with
  | none => none
  | some leg =>
    match leg.stage with
    | .onInvite [] true => some (s.setLeg ltag { leg with stage := .refused })
    | .onInvite [] false =>
      let leg := { leg with stage := .invited }
      some (s.setLeg ltag
        (if leg.awaited_identity_certs.isEmpty then
          leg.onIdentityReady lib cfg regex s.fetching.cache now
        else leg))
    | _ => none

/-- The leg processes its first event; in `onInvite` it processes none. -/
def eventStep (s : Identifying Identity Cert) (ltag : String) (now : Int) :
    Option (Identifying Identity Cert) :=
  match s.legs ltag with
  | none => none
  | some leg =>
    match leg.stage with
    | .onInvite _ _ => none
    | .destroyed => none
    -- a leg that is stopped still empties its queue
    | _ =>
      (s.events.find? (·.session_id = ltag)).map fun e =>
        { s.setLeg ltag (leg.onCertCacheReply lib cfg regex s.fetching.cache now e) with
          events := s.events.erase e }

def next (s : Identifying Identity Cert) : IdentityLabel → Option (Identifying Identity Cert)
  | .cache l => s.cacheStep botan regex l
  | .onInvite ltag hdrs require now => s.inviteStep lib cfg pc regex ltag hdrs require now
  | .addIdentityHdr ltag => s.addStep lib regex ltag
  | .endOfHeaders ltag now => s.endStep lib cfg regex ltag now
  | .onCertCacheReply ltag now => s.eventStep lib cfg regex ltag now
  | .destroy ltag =>
    (s.legs ltag).map fun leg =>
      { s.setLeg ltag { leg with stage := .destroyed } with
        events := s.events.filter (·.session_id ≠ ltag) }

/-- The cache starts empty, without legs. -/
def system : System (Identifying Identity Cert) IdentityLabel where
  init s := (Fetching.system botan regex).init s.fetching ∧ (∀ ltag, s.legs ltag = none) ∧
    s.events = []
  next := next lib cfg pc botan regex

/-! ### What a step does -/

/-- The leg after `addIdentityHdr`, with the certificates it awaits then. -/
def added (leg : IdentityLeg Identity) (header_value : List Char) (unread : List (List Char))
    (malformed : Bool) (awaited_identity_certs : List String) : IdentityLeg Identity :=
  { leg with
    stage := .onInvite unread malformed
    identity_headers := leg.identity_headers ++ [identityHeader lib header_value]
    awaited_identity_certs := awaited_identity_certs }

/-- The steps, one constructor for each way in which a state changes. -/
inductive Stepped (s : Identifying Identity Cert) :
    IdentityLabel → Identifying Identity Cert → Prop where
  | cache {l : CacheLabel} {fetching : Fetching Cert} :
      (∀ cert_url session_id, l ≠ .checkAndFetch cert_url session_id) →
      s.fetching.next botan regex l = some fetching →
      Stepped s (.cache l)
        { s with fetching := fetching, events := s.events ++ s.posted botan l }
  | parsing {ltag : String} {hdrs : List Char} {require : Bool} {now : Int}
      {unread : List (List Char)} {malformed : Bool} :
      s.legs ltag = none → (cfg.identity_enabled && require) = true →
      identityLoop lib pc hdrs hdrs.length 0 = (unread, malformed) →
      Stepped s (.onInvite ltag hdrs require now)
        (s.setLeg ltag ⟨hdrs, require, .onInvite unread malformed, [], [], [], []⟩)
  /-- Identities are not looked at. -/
  | plain {ltag : String} {hdrs : List Char} {require : Bool} {now : Int} :
      s.legs ltag = none → (cfg.identity_enabled && require) = false →
      Stepped s (.onInvite ltag hdrs require now)
        (s.setLeg ltag (IdentityLeg.onIdentityReady lib
          ⟨hdrs, require, .invited, [], [], [], []⟩ cfg regex s.fetching.cache now))
  /-- A header without URL. -/
  | noUrl {ltag : String} {leg : IdentityLeg Identity} {header_value : List Char}
      {unread : List (List Char)} {malformed : Bool} :
      s.legs ltag = some leg → leg.stage = .onInvite (header_value :: unread) malformed →
      certUrl lib header_value = none →
      Stepped s (.addIdentityHdr ltag)
        (s.setLeg ltag (added lib leg header_value unread malformed leg.awaited_identity_certs))
  /-- The certificate is there, or it cannot be had. -/
  | known {ltag : String} {leg : IdentityLeg Identity} {header_value : List Char}
      {unread : List (List Char)} {malformed : Bool} {cert_url : String} :
      s.legs ltag = some leg → leg.stage = .onInvite (header_value :: unread) malformed →
      certUrl lib header_value = some cert_url →
      (s.fetching.cache.checkAndFetch regex cert_url ltag).2.2 = true →
      Stepped s (.addIdentityHdr ltag)
        { s.setLeg ltag (added lib leg header_value unread malformed leg.awaited_identity_certs)
          with fetching := s.fetching.check regex cert_url ltag }
  | awaited {ltag : String} {leg : IdentityLeg Identity} {header_value : List Char}
      {unread : List (List Char)} {malformed : Bool} {cert_url : String} :
      s.legs ltag = some leg → leg.stage = .onInvite (header_value :: unread) malformed →
      certUrl lib header_value = some cert_url →
      (s.fetching.cache.checkAndFetch regex cert_url ltag).2.2 = false →
      Stepped s (.addIdentityHdr ltag)
        { s.setLeg ltag (added lib leg header_value unread malformed
            (leg.awaited_identity_certs.insert cert_url))
          with fetching := s.fetching.check regex cert_url ltag }
  | refused {ltag : String} {now : Int} {leg : IdentityLeg Identity} :
      s.legs ltag = some leg → leg.stage = .onInvite [] true →
      Stepped s (.endOfHeaders ltag now) (s.setLeg ltag { leg with stage := .refused })
  | waits {ltag : String} {now : Int} {leg : IdentityLeg Identity} :
      s.legs ltag = some leg → leg.stage = .onInvite [] false →
      leg.awaited_identity_certs ≠ [] →
      Stepped s (.endOfHeaders ltag now) (s.setLeg ltag { leg with stage := .invited })
  | ready {ltag : String} {now : Int} {leg : IdentityLeg Identity} :
      s.legs ltag = some leg → leg.stage = .onInvite [] false →
      leg.awaited_identity_certs = [] →
      Stepped s (.endOfHeaders ltag now)
        (s.setLeg ltag (IdentityLeg.onIdentityReady lib { leg with stage := .invited } cfg regex
          s.fetching.cache now))
  | event {ltag : String} {now : Int} {leg : IdentityLeg Identity} {e : CertCacheResponse} :
      s.legs ltag = some leg →
      (∀ unread malformed, leg.stage ≠ .onInvite unread malformed) → leg.stage ≠ .destroyed →
      e ∈ s.events → e.session_id = ltag →
      Stepped s (.onCertCacheReply ltag now)
        { s.setLeg ltag (leg.onCertCacheReply lib cfg regex s.fetching.cache now e) with
          events := s.events.erase e }
  | destroyed {ltag : String} {leg : IdentityLeg Identity} :
      s.legs ltag = some leg →
      Stepped s (.destroy ltag)
        { s.setLeg ltag { leg with stage := .destroyed } with
          events := s.events.filter (·.session_id ≠ ltag) }

variable {lib cfg pc botan regex} {s s' : Identifying Identity Cert}

theorem stepped_cacheStep {l : CacheLabel} (h : s.cacheStep botan regex l = some s') :
    s.Stepped lib cfg pc botan regex (.cache l) s' := by
  unfold cacheStep at h
  split at h
  · contradiction
  · next hcall =>
    obtain ⟨fetching, hnext, rfl⟩ := Option.map_eq_some_iff.mp h
    exact .cache hcall hnext

theorem stepped_inviteStep {ltag : String} {hdrs : List Char} {require : Bool} {now : Int}
    (h : s.inviteStep lib cfg pc regex ltag hdrs require now = some s') :
    s.Stepped lib cfg pc botan regex (.onInvite ltag hdrs require now) s' := by
  unfold inviteStep at h
  split at h
  · contradiction
  · next hnone =>
    split at h
    · next hparse =>
      rw [← Option.some.inj h]
      exact .parsing hnone hparse rfl
    · next hplain =>
      rw [← Option.some.inj h]
      exact .plain hnone (Bool.of_not_eq_true hplain)

theorem stepped_addStep {ltag : String} (h : s.addStep lib regex ltag = some s') :
    s.Stepped lib cfg pc botan regex (.addIdentityHdr ltag) s' := by
  unfold addStep at h
  split at h
  · contradiction
  · next leg hleg =>
    split at h
    · next header_value unread malformed hstage =>
      split at h
      · next hurl =>
        rw [← Option.some.inj h]
        exact .noUrl hleg hstage hurl
      · next cert_url hurl =>
        rw [← Option.some.inj h]
        by_cases hret : (s.fetching.cache.checkAndFetch regex cert_url ltag).2.2
        · simp only [hret, if_true]
          exact .known hleg hstage hurl hret
        · have hfalse := Bool.of_not_eq_true hret
          simp only [hfalse, Bool.false_eq_true, if_false]
          exact .awaited hleg hstage hurl hfalse
    · contradiction

theorem stepped_endStep {ltag : String} {now : Int}
    (h : s.endStep lib cfg regex ltag now = some s') :
    s.Stepped lib cfg pc botan regex (.endOfHeaders ltag now) s' := by
  unfold endStep at h
  split at h
  · contradiction
  · next leg hleg =>
    split at h
    · next hstage =>
      rw [← Option.some.inj h]
      exact .refused hleg hstage
    · next hstage =>
      rw [← Option.some.inj h]
      by_cases hempty : leg.awaited_identity_certs = []
      · simp only [hempty, List.isEmpty_nil, if_true]
        have hready : s.Stepped lib cfg pc botan regex (.endOfHeaders ltag now) _ :=
          .ready hleg hstage hempty
        rwa [hempty] at hready
      · simp only [List.isEmpty_iff, hempty, if_false]
        exact .waits hleg hstage hempty
    · contradiction

theorem stepped_eventStep {ltag : String} {now : Int}
    (h : s.eventStep lib cfg regex ltag now = some s') :
    s.Stepped lib cfg pc botan regex (.onCertCacheReply ltag now) s' := by
  unfold eventStep at h
  split at h
  · contradiction
  · next leg hleg =>
    split at h
    · contradiction
    · contradiction
    · next hreading hgone =>
      obtain ⟨e, he, rfl⟩ := Option.map_eq_some_iff.mp h
      have hid : e.session_id = ltag := by simpa using List.find?_some he
      exact .event hleg hreading hgone (List.mem_of_find?_eq_some he) hid

/-- Every step is one of these. -/
theorem next_stepped {l : IdentityLabel} (h : s.next lib cfg pc botan regex l = some s') :
    s.Stepped lib cfg pc botan regex l s' := by
  cases l with
  | cache l => exact stepped_cacheStep h
  | onInvite ltag hdrs require now => exact stepped_inviteStep h
  | addIdentityHdr ltag => exact stepped_addStep h
  | endOfHeaders ltag now => exact stepped_endStep h
  | onCertCacheReply ltag now => exact stepped_eventStep h
  | destroy ltag =>
    obtain ⟨leg, hleg, rfl⟩ := Option.map_eq_some_iff.mp h
    exact .destroyed hleg

end Identifying

end Yeti.Certs
