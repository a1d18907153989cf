import Yeti.Certs.Awaiting

/-! # What the routing is told about identities

    The routing gets a row for each identity of the request.  A row that says `verified`
    stands for a signature that was checked with the key of a certificate that the cache
    has for the URL of the header, and the cache says that a certificate is valid only
    after path validation has accepted its chain.  The rows are made when the leg is
    routed, long after its headers were read: neither the headers nor what was made of
    them may change in between.
-/

open LTS

namespace Yeti.Certs

open Headers

variable {Identity Cert Key : Type}

/-! ### Valid certificates -/

/-- Path validation has accepted the chain, with some store at some time. -/
def Accepted (botan : BotanX509 Cert) (chain : List Cert) : Prop :=
  ∃ store now v, botan.x509_path_validate chain store now = .ok v ∧
    v.successful_validation = true

/-- The entries that `getPubKey` calls valid have an accepted chain. -/
def Valid (botan : BotanX509 Cert) (entries : Entries Cert) : Prop :=
  ∀ url entry, entries.lookup url = some entry → entry.state = .LOADED →
    entry.validation_sucessfull = true → Accepted botan entry.cert_chain

variable {botan : BotanX509 Cert} {regex : Regex} {entries : Entries Cert}

theorem Valid.of_renewing {after : Entries Cert} (h : Valid botan entries)
    (hrenew : Renewing entries after) : Valid botan after := by
  intro url entry hentry hloaded hvalid
  rcases hrenew url with hsame | hnone | ⟨before, hbefore, -⟩
  · exact h url entry (hsame.symm.trans hentry) hloaded hvalid
  · rw [hnone] at hentry
    contradiction
  · -- a renewed entry is loading
    rw [hbefore] at hentry
    rw [← Option.some.inj hentry] at hloaded
    contradiction

theorem Valid.insert (h : Valid botan entries) (url : String) {entry : CertCacheEntry Cert}
    (hentry : entry.state = .LOADED → entry.validation_sucessfull = true →
      Accepted botan entry.cert_chain) : Valid botan (entries.insert url entry) := by
  intro u e he hloaded hvalid
  by_cases hu : u = url
  · subst hu
    rw [AList.lookup_insert] at he
    cases Option.some.inj he
    exact hentry hloaded hvalid
  · rw [AList.lookup_insert_ne hu] at he
    exact h u e he hloaded hvalid

/-- A reply clears `validation_sucessfull`, and path validation alone sets it. -/
theorem accepted_validate (c : CertCache Cert) (now : Int) (entry : CertCacheEntry Cert)
    (hloaded : (c.validate botan now entry).state = .LOADED)
    (hvalid : (c.validate botan now entry).validation_sucessfull = true) :
    Accepted botan (c.validate botan now entry).cert_chain := by
  unfold CertCache.validate at hloaded hvalid ⊢
  dsimp only at hloaded hvalid ⊢
  split
  · next chain e hread =>
    rw [hread] at hloaded
    contradiction
  · next chain hread =>
    rw [hread] at hloaded hvalid
    dsimp only at hloaded hvalid
    split
    · next e hvalidate =>
      rw [hvalidate] at hloaded
      contradiction
    · next v hvalidate =>
      rw [hvalidate] at hvalid
      exact ⟨c.trusted.trusted_certs_store, now, v, hvalidate, hvalid⟩

theorem Valid.processHttpReply {c : CertCache Cert} (h : Valid botan c.entries) (token : String)
    (data : List UInt8) (now : Int) :
    Valid botan (c.processHttpReply botan token data now).1.entries := by
  unfold CertCache.processHttpReply
  split
  · exact h
  · next entry hentry =>
    exact h.insert token fun hloaded hvalid => accepted_validate c now _ hloaded hvalid

theorem Valid.check {s : Fetching Cert} (h : Valid botan s.cache.entries)
    (cert_url session_id : String) :
    Valid botan (s.check regex cert_url session_id).cache.entries := by
  have hsame : (s.check regex cert_url session_id).cache =
      (s.cache.checkAndFetch regex cert_url session_id).1 := by
    unfold Fetching.check Fetching.operate
    dsimp only
    split
    · rfl
    · rfl
  rw [hsame]
  by_cases hmissing : s.cache.isTrustedRepository regex cert_url = true →
      s.cache.entries.lookup cert_url ≠ none
  · exact h.of_renewing (Renewing.checkAndFetch regex s.cache cert_url session_id hmissing)
  · -- the entry is made, and it is loading
    obtain ⟨htrusted, hnone⟩ : s.cache.isTrustedRepository regex cert_url = true ∧
        s.cache.entries.lookup cert_url = none := by
      simpa using hmissing
    simp only [CertCache.checkAndFetch, hnone, htrusted, Bool.not_true, Bool.false_eq_true,
      if_false]
    exact h.insert cert_url fun hloaded => CertState.noConfusion hloaded

theorem Valid.next [DecidableEq Cert] {s s' : Fetching Cert} {l : CacheLabel}
    (h : Valid botan s.cache.entries) (hnext : s.next botan regex l = some s')
    (hcall : ∀ cert_url session_id, l ≠ .checkAndFetch cert_url session_id) :
    Valid botan s'.cache.entries := by
  by_cases hreply : ∃ i data now, l = .processHttpReply i data now
  · obtain ⟨i, data, now, rfl⟩ := hreply
    obtain ⟨f, -, rfl⟩ := Option.map_eq_some_iff.mp hnext
    exact h.processHttpReply f.token data now
  · exact h.of_renewing
      (Renewing.next hcall (fun i data now heq => hreply ⟨i, data, now, heq⟩) hnext)

/-! ### Rows -/

/-- What a row says about its header. -/
structure Reports (lib : IdentityLib Identity Cert Key) (cfg : IdentityCfg)
    (botan : BotanX509 Cert) (e : IdentityHeader Identity) (row : IdentityRow) : Prop where
  parsed : row.parsed = e.parsed
  unparsed : e.parsed = false → row.raw = some e.raw_header_value ∧ row.verified = false
  content : e.parsed = true → row.header = some (lib.get_parsed_header e.identity) ∧
    row.payload = some (lib.get_parsed_payload e.identity)
  /-- The signature was checked with the first certificate of an accepted chain. -/
  verified : row.verified = true → ∃ cert rest now, Accepted botan (cert :: rest) ∧
    lib.verify e.identity (lib.subject_public_key cert) cfg.expires now = .ok ()
  /-- Otherwise there is an error. -/
  explained : row.verified = false → row.error ≠ none

/-- The key of a valid certificate is that of an accepted chain. -/
theorem accepted_of_getPubKey {cache : CertCache Cert} (hvalid : Valid botan cache.entries)
    {cert_url : String} {cert : Cert} (h : cache.getPubKey cert_url = some (cert, true)) :
    ∃ rest, Accepted botan (cert :: rest) := by
  unfold CertCache.getPubKey at h
  rcases hentry : cache.entries.lookup cert_url with _ | entry
  · rw [hentry] at h
    contradiction
  · rw [hentry] at h
    dsimp only at h
    by_cases hloaded : entry.state = .LOADED
    · rw [if_neg (not_not_intro hloaded)] at h
      obtain ⟨first, hfirst, hpair⟩ := Option.map_eq_some_iff.mp h
      obtain ⟨rfl, hflag⟩ := Prod.mk.inj hpair
      obtain ⟨rest, hchain⟩ := List.head?_eq_some_iff.mp hfirst
      exact ⟨rest, hchain ▸ hvalid cert_url entry hentry hloaded hflag⟩
    · rw [if_pos hloaded] at h
      contradiction

theorem reports_verifyHeader (lib : IdentityLib Identity Cert Key) (cfg : IdentityCfg)
    {cache : CertCache Cert} (hvalid : Valid botan cache.entries) (now : Int)
    (e : IdentityHeader Identity) :
    Reports lib cfg botan e (verifyHeader lib cfg regex cache now e) := by
  by_cases hparsed : e.parsed = true
  · have hrow : ∀ error, error ≠ none → Reports lib cfg botan e
        { parsed := true
          header := some (lib.get_parsed_header e.identity)
          payload := some (lib.get_parsed_payload e.identity)
          error := error
          verified := false } := by
      intro error herror
      exact ⟨hparsed.symm, fun h => absurd (hparsed.symm.trans h) Bool.noConfusion,
        fun _ => ⟨rfl, rfl⟩, fun h => Bool.noConfusion h, fun _ => herror⟩
    unfold verifyHeader
    rw [hparsed, Bool.not_true, if_neg Bool.false_ne_true]
    dsimp only
    split
    · next cert cert_is_valid hkey =>
      split
      · next hflag =>
        subst hflag
        split
        · next hverify =>
          obtain ⟨rest, haccepted⟩ := accepted_of_getPubKey hvalid hkey
          exact ⟨hparsed.symm, fun h => absurd (hparsed.symm.trans h) Bool.noConfusion,
            fun _ => ⟨rfl, rfl⟩, fun _ => ⟨cert, rest, now, haccepted, hverify⟩,
            fun h => Bool.noConfusion h⟩
        · exact hrow _ (Option.some_ne_none _)
      · exact hrow _ (Option.some_ne_none _)
    · split
      · exact hrow _ (Option.some_ne_none _)
      · exact hrow _ (Option.some_ne_none _)
  · have hfalse := Bool.of_not_eq_true hparsed
    unfold verifyHeader
    rw [hfalse]
    exact ⟨hfalse.symm, fun _ => ⟨rfl, rfl⟩, fun h => absurd h hparsed,
      fun h => Bool.noConfusion h, fun _ => Option.some_ne_none _⟩

/-! ### Rows of a leg -/

/-- The values of the `Identity` headers of the request, none if they are not looked at. -/
def requestValues (lib : IdentityLib Identity Cert Key) (cfg : IdentityCfg) (pc : ParseCommon)
    (leg : IdentityLeg Identity) : List (List Char) :=
  if cfg.identity_enabled && leg.require_identity_parsing then
    (identityLoop lib pc leg.uac_req leg.uac_req.length 0).1
  else []

/-- The headers of the leg are those of its request, and its rows report them. -/
structure IdentityLeg.Reported (lib : IdentityLib Identity Cert Key) (cfg : IdentityCfg)
    (pc : ParseCommon) (botan : BotanX509 Cert) (leg : IdentityLeg Identity) : Prop where
  reading : ∀ unread malformed, leg.stage = .onInvite unread malformed →
    leg.identity_headers ++ unread.map (identityHeader lib) =
      (requestValues lib cfg pc leg).map (identityHeader lib)
  read : leg.stage = .invited ∨ leg.stage = .refused →
    leg.identity_headers = (requestValues lib cfg pc leg).map (identityHeader lib)
  empty : leg.routed = [] → leg.identity_data = []
  rows : ∀ rows, some rows ∈ leg.routed →
    List.Forall₂ (Reports lib cfg botan)
      ((requestValues lib cfg pc leg).map (identityHeader lib)) rows

section Leg

variable {lib : IdentityLib Identity Cert Key} {cfg : IdentityCfg} {pc : ParseCommon}

/-- A leg that is routed with the headers of its request. -/
theorem IdentityLeg.reported_onIdentityReady {leg : IdentityLeg Identity} {cache : CertCache Cert}
    (hvalid : Valid botan cache.entries) (now : Int)
    (hstage : ∀ unread malformed, leg.stage ≠ .onInvite unread malformed)
    (hheaders : leg.identity_headers = (requestValues lib cfg pc leg).map (identityHeader lib))
    (hrouted : leg.routed = []) (hempty : leg.identity_data = []) :
    (leg.onIdentityReady lib cfg regex cache now).Reported lib cfg pc botan := by
  unfold IdentityLeg.onIdentityReady
  dsimp only
  split
  · refine ⟨fun unread malformed h => absurd h (hstage unread malformed), fun _ => hheaders,
      fun h => ?_, fun rows hrows => ?_⟩
    · exact absurd h (List.append_ne_nil_of_right_ne_nil _ (List.cons_ne_nil _ _))
    · rw [hrouted, hempty, List.nil_append, List.nil_append, List.mem_singleton,
        Option.some.injEq] at hrows
      rw [hrows]
      show List.Forall₂ (Reports lib cfg botan)
        ((requestValues lib cfg pc leg).map (identityHeader lib)) _
      rw [← hheaders, List.forall₂_map_right_iff]
      exact List.forall₂_same.mpr fun e _ => reports_verifyHeader lib cfg hvalid now e
  · refine ⟨fun unread malformed h => absurd h (hstage unread malformed), fun _ => hheaders,
      fun _ => hempty, fun rows hrows => ?_⟩
    -- without identities the routing gets no data
    rw [hrouted, List.nil_append, List.mem_singleton] at hrows
    exact absurd hrows (Option.some_ne_none rows)

/-- A leg that adds a header. -/
theorem IdentityLeg.Reported.added {leg : IdentityLeg Identity}
    (h : leg.Reported lib cfg pc botan) {header_value : List Char} {unread : List (List Char)}
    {malformed : Bool} (hstage : leg.stage = .onInvite (header_value :: unread) malformed)
    (certs : List String) :
    (Identifying.added lib leg header_value unread malformed certs).Reported lib cfg pc botan := by
  refine ⟨fun unread' malformed' hstage' => ?_, fun hstage' => ?_, h.empty, h.rows⟩
  · cases hstage'
    show leg.identity_headers ++ [identityHeader lib header_value] ++
        unread.map (identityHeader lib) = (requestValues lib cfg pc leg).map (identityHeader lib)
    rw [← h.reading _ _ hstage, List.append_assoc]
    rfl
  · rcases hstage' with hstage' | hstage'
    · contradiction
    · contradiction

/-- A leg that has added all headers has those of its request. -/
theorem IdentityLeg.Reported.headers {leg : IdentityLeg Identity}
    (h : leg.Reported lib cfg pc botan) {malformed : Bool}
    (hstage : leg.stage = .onInvite [] malformed) :
    leg.identity_headers = (requestValues lib cfg pc leg).map (identityHeader lib) := by
  have hall := h.reading _ _ hstage
  rwa [List.map_nil, List.append_nil] at hall

theorem IdentityLeg.Reported.event {leg : IdentityLeg Identity}
    (h : leg.Reported lib cfg pc botan) {cache : CertCache Cert}
    (hvalid : Valid botan cache.entries) (now : Int) (e : CertCacheResponse)
    (hreading : ∀ unread malformed, leg.stage ≠ .onInvite unread malformed)
    (hgone : leg.stage ≠ .destroyed) (hrouted : leg.routed = []) :
    (leg.onCertCacheReply lib cfg regex cache now e).Reported lib cfg pc botan := by
  have hheaders : leg.identity_headers =
      (requestValues lib cfg pc leg).map (identityHeader lib) := by
    refine h.read ?_
    rcases hstage : leg.stage with ⟨unread, malformed⟩ | _ | _ | _
    · exact absurd hstage (hreading unread malformed)
    · exact .inl rfl
    · exact .inr rfl
    · exact absurd hstage hgone
  unfold IdentityLeg.onCertCacheReply
  dsimp only
  split
  · exact IdentityLeg.reported_onIdentityReady hvalid now hreading hheaders hrouted
      (h.empty hrouted)
  · exact ⟨h.reading, h.read, h.empty, h.rows⟩

end Leg

/-! ### All runs -/

namespace Identifying

variable [DecidableEq Cert] {lib : IdentityLib Identity Cert Key} {cfg : IdentityCfg}
  {pc : ParseCommon} {s s' : Identifying Identity Cert} {ltag : String}

/-- The cache calls only accepted chains valid, and the legs report their headers. -/
structure Recorded (lib : IdentityLib Identity Cert Key) (cfg : IdentityCfg) (pc : ParseCommon)
    (botan : BotanX509 Cert) (s : Identifying Identity Cert) : Prop where
  valid : Valid botan s.fetching.cache.entries
  reported : ∀ ltag leg, s.legs ltag = some leg → leg.Reported lib cfg pc botan

omit [DecidableEq Cert] in
theorem Recorded.of_setLeg (h : s.Recorded lib cfg pc botan) {leg : IdentityLeg Identity}
    (hlegs : s'.legs = Function.update s.legs ltag (some leg))
    (hvalid : Valid botan s'.fetching.cache.entries) (hleg : leg.Reported lib cfg pc botan) :
    s'.Recorded lib cfg pc botan := by
  refine ⟨hvalid, fun session_id leg' hleg' => ?_⟩
  rw [hlegs] at hleg'
  by_cases hid : session_id = ltag
  · subst hid
    rw [Function.update_self] at hleg'
    rw [← Option.some.inj hleg']
    exact hleg
  · rw [Function.update_of_ne hid] at hleg'
    exact h.reported session_id leg' hleg'

theorem recorded_stepped (h : s.Recorded lib cfg pc botan) (hinv : s.Inv) {l : IdentityLabel}
    (hstep : s.Stepped lib cfg pc botan regex l s') : s'.Recorded lib cfg pc botan := by
  have hvalid := h.valid
  cases hstep with
  | cache hcall hnext => exact ⟨hvalid.next hnext hcall, h.reported⟩
  | @parsing _ hdrs require _ unread malformed hnone hparse hloop =>
    refine h.of_setLeg rfl hvalid ⟨fun unread' malformed' hstage => ?_, fun hstage => ?_,
      fun _ => rfl, fun rows hrows => absurd hrows List.not_mem_nil⟩
    · cases hstage
      simp only [requestValues, hparse, if_true, hloop, List.nil_append]
    · rcases hstage with hstage | hstage
      · contradiction
      · contradiction
  | @plain _ hdrs require now hnone hplain =>
    refine h.of_setLeg rfl hvalid (IdentityLeg.reported_onIdentityReady hvalid now
      (fun _ _ hstage => IdentityStage.noConfusion hstage) ?_ rfl rfl)
    simp only [requestValues, hplain, Bool.false_eq_true, if_false, List.map_nil]
  | noUrl hleg hstage hurl =>
    exact h.of_setLeg rfl hvalid ((h.reported _ _ hleg).added hstage _)
  | known hleg hstage hurl hret =>
    exact h.of_setLeg rfl (hvalid.check _ _) ((h.reported _ _ hleg).added hstage _)
  | awaited hleg hstage hurl hret =>
    exact h.of_setLeg rfl (hvalid.check _ _) ((h.reported _ _ hleg).added hstage _)
  | refused hleg hstage =>
    have hreported := h.reported _ _ hleg
    exact h.of_setLeg rfl hvalid ⟨fun _ _ h => IdentityStage.noConfusion h,
      fun _ => hreported.headers hstage, hreported.empty, hreported.rows⟩
  | waits hleg hstage hne =>
    have hreported := h.reported _ _ hleg
    exact h.of_setLeg rfl hvalid ⟨fun _ _ h => IdentityStage.noConfusion h,
      fun _ => hreported.headers hstage, hreported.empty, hreported.rows⟩
  | @ready ltag now leg hleg hstage hnone =>
    have hreported := h.reported ltag leg hleg
    have hrouted := (hinv.sound ltag leg hleg).reading _ _ hstage
    exact h.of_setLeg rfl hvalid (IdentityLeg.reported_onIdentityReady hvalid now
      (fun _ _ hstage => IdentityStage.noConfusion hstage) (hreported.headers hstage) hrouted
      (hreported.empty hrouted))
  | @event ltag now leg e hleg hreading hgone hmem hid =>
    -- the leg awaits what the event is about, so it is not routed yet
    have hrouted : leg.routed = [] := hinv.routed_of_event hleg hmem hid
    exact h.of_setLeg rfl hvalid
      ((h.reported ltag leg hleg).event hvalid now e hreading hgone hrouted)
  | destroyed hleg =>
    have hreported := h.reported _ _ hleg
    refine h.of_setLeg rfl hvalid ⟨fun _ _ h => IdentityStage.noConfusion h, fun hstage => ?_,
      hreported.empty, hreported.rows⟩
    rcases hstage with hstage | hstage
    · contradiction
    · contradiction

/-- **What is reported**: in every run in which no leg is registered again for a URL that it
    awaits, the identity data of a routing request has a row for each value of the
    `Identity` headers of the INVITE, in their order.  A row says `verified` only for a
    signature that was checked with the first certificate of a chain that path validation
    has accepted, and a row that does not has an error. -/
theorem reports_of_routed (lib : IdentityLib Identity Cert Key) (cfg : IdentityCfg)
    (pc : ParseCommon) (botan : BotanX509 Cert) (regex : Regex)
    {s : Identifying Identity Cert}
    (h : (system lib cfg pc botan regex).ReachableUnder (Anew lib regex) s)
    {ltag : String} {leg : IdentityLeg Identity} (hleg : s.legs ltag = some leg)
    {rows : List IdentityRow} (hrows : some rows ∈ leg.routed) :
    List.Forall₂ (Reports lib cfg botan)
      ((requestValues lib cfg pc leg).map (identityHeader lib)) rows := by
  have hboth : s.Inv ∧ s.Recorded lib cfg pc botan := by
    refine System.invariant_under (fun s => s.Inv ∧ s.Recorded lib cfg pc botan) ?_ ?_ h
    · rintro s hinit
      refine ⟨inv_init hinit, fun url entry hentry => ?_, fun ltag leg hleg => ?_⟩
      · rw [hinit.1.1] at hentry
        contradiction
      · rw [hinit.2.1] at hleg
        contradiction
    · rintro s l s' ⟨hinv, hrecorded⟩ hok hnext
      have hstep := next_stepped hnext
      exact ⟨inv_stepped hinv hok hstep, recorded_stepped hrecorded hinv hstep⟩
  exact (hboth.2.reported ltag leg hleg).rows rows hrows

end Identifying

end Yeti.Certs
