import Yeti.Certs.Identity
import Yeti.Certs.Renewing

/-! # Each leg is routed once

    A leg requests the routing in `onInvite`, or when the last of the certificates that
    it awaits has come.  It would do so twice if it got two responses for one URL.

    A response is *pending* for a leg and a URL while the leg is registered for it in
    the cache or has the event in its queue.  Only `addIdentityHdr` makes one pending,
    and every other step moves it on or drops it.  So there is at most one, for a URL
    that the leg awaits, as long as a leg that awaits a URL already is not registered
    for it again.  This is the case when the `Identity` headers of a request have
    different URLs; when two have the same one, it takes that the entry is erased
    between them.
-/

open LTS

namespace Yeti.Certs

open Headers

variable {Identity Cert Key : Type}

/-! ### Sessions registered in the cache -/

/-- How often the session is registered for the URL. -/
def registrations (entries : Entries Cert) (session_id url : String) : Nat :=
  ((entries.lookup url).map fun entry => entry.defer_sessions.count session_id).getD 0

theorem registrations_none {entries : Entries Cert} {session_id url : String}
    (h : entries.lookup url = none) : registrations entries session_id url = 0 := by
  unfold registrations
  rw [h]
  rfl

theorem registrations_some {entries : Entries Cert} {session_id url : String}
    {entry : CertCacheEntry Cert} (h : entries.lookup url = some entry) :
    registrations entries session_id url = entry.defer_sessions.count session_id := by
  unfold registrations
  rw [h]
  rfl

theorem registrations_insert (entries : Entries Cert) (entry : CertCacheEntry Cert)
    (session_id url : String) :
    registrations (entries.insert url entry) session_id url =
      entry.defer_sessions.count session_id :=
  registrations_some (AList.lookup_insert entries)

theorem registrations_insert_ne (entries : Entries Cert) (entry : CertCacheEntry Cert)
    {session_id url url' : String} (h : url ≠ url') :
    registrations (entries.insert url' entry) session_id url =
      registrations entries session_id url := by
  unfold registrations
  rw [AList.lookup_insert_ne h]

/-- No session is registered anew by a step that renews entries. -/
theorem Renewing.registrations_le {before after : Entries Cert} (h : Renewing before after)
    (session_id url : String) :
    registrations after session_id url ≤ registrations before session_id url := by
  rcases h url with hsame | hnone | ⟨entry, hentry, hbefore | hsessions⟩
  · unfold registrations
    rw [hsame]
  · rw [registrations_none hnone]
    exact Nat.zero_le _
  · -- a reset keeps the sessions
    rw [registrations_some hentry, registrations_some hbefore]
    exact Nat.le_refl _
  · have hempty : entry.reset.defer_sessions = [] := hsessions
    rw [registrations_some hentry, hempty]
    exact Nat.zero_le _

/-! ### Responses under way -/

/-- How many responses for the URL the session has in its queue. -/
def responses (events : List CertCacheResponse) (session_id url : String) : Nat :=
  events.countP fun e => e.session_id = session_id && e.cert_url = url

theorem responses_append (events more : List CertCacheResponse) (session_id url : String) :
    responses (events ++ more) session_id url =
      responses events session_id url + responses more session_id url :=
  List.countP_append

theorem responses_filter_le (p : CertCacheResponse → Bool) (events : List CertCacheResponse)
    (session_id url : String) :
    responses (events.filter p) session_id url ≤ responses events session_id url :=
  (List.filter_sublist (p := p)).countP_le

/-- The events posted for the sessions of an entry. -/
theorem responses_map (sessions : List String) (result : KeyResult) (token : String)
    (session_id url : String) :
    responses (sessions.map fun session_id => ⟨session_id, result, token⟩) session_id url =
      if url = token then sessions.count session_id else 0 := by
  unfold responses
  rw [List.countP_map]
  by_cases hurl : url = token
  · rw [if_pos hurl, List.count]
    refine List.countP_congr fun t _ => ?_
    simp [hurl]
  · rw [if_neg hurl]
    refine List.countP_eq_zero.mpr fun t _ => ?_
    simp [Ne.symm hurl]

/-- The first event of a session leaves its queue. -/
theorem responses_erase {events : List CertCacheResponse} {e : CertCacheResponse}
    (he : e ∈ events) (session_id url : String) :
    responses (events.erase e) session_id url +
        (if e.session_id = session_id ∧ e.cert_url = url then 1 else 0) =
      responses events session_id url := by
  unfold responses
  have hperm := (List.perm_cons_erase he).countP_eq
    fun e => decide (e.session_id = session_id) && decide (e.cert_url = url)
  rw [hperm, List.countP_cons]
  simp only [Bool.and_eq_true, decide_eq_true_eq]

/-! ### Legs -/

/-- A leg is routed once at most, not before it has read its headers, and not while it
    awaits a certificate. -/
structure IdentityLeg.Sound (leg : IdentityLeg Identity) : Prop where
  once : leg.routed.length ≤ 1
  reading : ∀ unread malformed, leg.stage = .onInvite unread malformed → leg.routed = []
  awaiting : leg.awaited_identity_certs ≠ [] → leg.routed = []
  invited : leg.stage = .invited → leg.awaited_identity_certs = [] → leg.routed ≠ []

theorem IdentityLeg.onIdentityReady_fields (lib : IdentityLib Identity Cert Key)
    (leg : IdentityLeg Identity) (cfg : IdentityCfg) (regex : Regex) (cache : CertCache Cert)
    (now : Int) :
    (leg.onIdentityReady lib cfg regex cache now).stage = leg.stage ∧
      (leg.onIdentityReady lib cfg regex cache now).awaited_identity_certs =
        leg.awaited_identity_certs ∧
      ∃ data, (leg.onIdentityReady lib cfg regex cache now).routed = leg.routed ++ [data] := by
  unfold IdentityLeg.onIdentityReady
  split
  · exact ⟨rfl, rfl, _, rfl⟩
  · exact ⟨rfl, rfl, _, rfl⟩

/-- A leg that is routed for the first time. -/
theorem IdentityLeg.sound_onIdentityReady (lib : IdentityLib Identity Cert Key)
    {leg : IdentityLeg Identity} (cfg : IdentityCfg) (regex : Regex) (cache : CertCache Cert)
    (now : Int) (hstage : ∀ unread malformed, leg.stage ≠ .onInvite unread malformed)
    (hnone : leg.awaited_identity_certs = []) (hrouted : leg.routed = []) :
    (leg.onIdentityReady lib cfg regex cache now).Sound := by
  obtain ⟨hsame, hcerts, data, hdata⟩ := leg.onIdentityReady_fields lib cfg regex cache now
  rw [hrouted, List.nil_append] at hdata
  constructor
  · rw [hdata]
    exact Nat.le_refl _
  · intro unread malformed h
    exact absurd (hsame.symm.trans h) (hstage unread malformed)
  · intro h
    exact absurd (hcerts.trans hnone) h
  · intro _ _
    rw [hdata]
    exact List.cons_ne_nil _ _

namespace Identifying

variable {lib : IdentityLib Identity Cert Key} {cfg : IdentityCfg}
  {pc : ParseCommon} {botan : BotanX509 Cert} {regex : Regex}
  {s s' : Identifying Identity Cert} {ltag : String}

/-- The responses for the URL that the session has got or will get. -/
def pending (s : Identifying Identity Cert) (session_id url : String) : Nat :=
  registrations s.fetching.cache.entries session_id url + responses s.events session_id url

variable (lib) in
/-- The URL of the header that the leg adds next. -/
def nextUrl (leg : IdentityLeg Identity) : Option String :=
  match leg.stage with
  | .onInvite (header_value :: _) _ => certUrl lib header_value
  | _ => none

variable (lib regex) in
/-- When the leg awaits the URL already, its entry is still there. -/
def Anew (s : Identifying Identity Cert) : IdentityLabel → Prop
  | .addIdentityHdr ltag =>
    ∀ leg ∈ s.legs ltag, ∀ url ∈ nextUrl lib leg, url ∈ leg.awaited_identity_certs →
      s.fetching.cache.isTrustedRepository regex url = true →
        (s.fetching.cache.entries.lookup url).isSome = true
  | _ => True

instance (s : Identifying Identity Cert) : (l : IdentityLabel) → Decidable (s.Anew lib regex l)
  | .addIdentityHdr _ => inferInstanceAs (Decidable (∀ _ ∈ _, ∀ _ ∈ _, _ → _ → _))
  | .cache _ => .isTrue trivial
  | .onInvite _ _ _ _ => .isTrue trivial
  | .endOfHeaders _ _ => .isTrue trivial
  | .onCertCacheReply _ _ => .isTrue trivial
  | .destroy _ => .isTrue trivial

/-- What is pending, is pending once, for a URL that the leg awaits. -/
structure Inv (s : Identifying Identity Cert) : Prop where
  pending_le : ∀ session_id url, s.pending session_id url ≤ 1
  awaited : ∀ session_id url, 0 < s.pending session_id url →
    ∃ leg, s.legs session_id = some leg ∧ url ∈ leg.awaited_identity_certs
  sound : ∀ session_id leg, s.legs session_id = some leg → leg.Sound

/-- Without the leg nothing is pending for it. -/
theorem Inv.pending_eq_zero (h : s.Inv) {session_id url : String}
    (hnone : s.legs session_id = none) : s.pending session_id url = 0 := by
  by_contra hne
  obtain ⟨leg, hleg, -⟩ := h.awaited session_id url (Nat.pos_of_ne_zero hne)
  rw [hnone] at hleg
  contradiction

/-- The leg awaits what is pending for it. -/
theorem Inv.mem_awaited (h : s.Inv) {leg : IdentityLeg Identity} (hleg : s.legs ltag = some leg)
    {url : String} (hpos : 0 < s.pending ltag url) : url ∈ leg.awaited_identity_certs := by
  obtain ⟨leg₀, hleg₀, hmem⟩ := h.awaited ltag url hpos
  rw [hleg] at hleg₀
  rw [Option.some.inj hleg₀]
  exact hmem

/-- A step that makes nothing pending and leaves the legs alone. -/
theorem Inv.of_le (h : s.Inv) (hlegs : s'.legs = s.legs)
    (hle : ∀ session_id url, s'.pending session_id url ≤ s.pending session_id url) :
    s'.Inv := by
  constructor
  · intro session_id url
    exact Nat.le_trans (hle session_id url) (h.pending_le session_id url)
  · intro session_id url hpos
    rw [hlegs]
    exact h.awaited session_id url (Nat.lt_of_lt_of_le hpos (hle session_id url))
  · rw [hlegs]
    exact h.sound

/-- A step of one leg. -/
theorem Inv.of_setLeg (h : s.Inv) {leg : IdentityLeg Identity}
    (hlegs : s'.legs = Function.update s.legs ltag (some leg)) (hsound : leg.Sound)
    (hother : ∀ session_id url, session_id ≠ ltag →
      s'.pending session_id url ≤ s.pending session_id url)
    (hown : ∀ url, s'.pending ltag url ≤ 1 ∧
      (0 < s'.pending ltag url → url ∈ leg.awaited_identity_certs)) : s'.Inv := by
  constructor
  · intro session_id url
    by_cases hid : session_id = ltag
    · subst hid
      exact (hown url).1
    · exact Nat.le_trans (hother session_id url hid) (h.pending_le session_id url)
  · intro session_id url hpos
    rw [hlegs]
    by_cases hid : session_id = ltag
    · subst hid
      exact ⟨leg, Function.update_self .., (hown url).2 hpos⟩
    · rw [Function.update_of_ne hid]
      exact h.awaited session_id url (Nat.lt_of_lt_of_le hpos (hother session_id url hid))
  · intro session_id leg' hleg'
    rw [hlegs] at hleg'
    by_cases hid : session_id = ltag
    · subst hid
      rw [Function.update_self] at hleg'
      rw [← Option.some.inj hleg']
      exact hsound
    · rw [Function.update_of_ne hid] at hleg'
      exact h.sound session_id leg' hleg'

/-! ### Steps of the cache -/

/-- Only replies post events. -/
theorem posted_of_ne {l : CacheLabel} (h : ∀ i data now, l ≠ .processHttpReply i data now) :
    s.posted botan l = [] := by
  unfold posted
  split
  · next i data now => exact absurd rfl (h i data now)
  · rfl

variable (botan) in
/-- What a reply does to one URL of one session: registrations become responses. -/
theorem registrations_reply (c : CertCache Cert) (token : String) (data : List UInt8)
    (now : Int) (session_id url : String) :
    registrations (c.processHttpReply botan token data now).1.entries session_id url +
        responses (c.processHttpReply botan token data now).2 session_id url =
      registrations c.entries session_id url := by
  rcases hentry : c.entries.lookup token with _ | entry
  · have heq : c.processHttpReply botan token data now = (c, []) := by
      unfold CertCache.processHttpReply
      rw [hentry]
    rw [heq]
    rfl
  · obtain ⟨entry', result, hnone, heq⟩ :=
      Fetching.processHttpReply_some botan hentry data now
    rw [heq]
    simp only [responses_map]
    by_cases hurl : url = token
    · subst hurl
      rw [registrations_insert, hnone, if_pos rfl, registrations_some hentry, List.count_nil,
        Nat.zero_add]
    · rw [registrations_insert_ne _ _ hurl, if_neg hurl, Nat.add_zero]

/-- A step of the cache moves pending responses on or drops them. -/
theorem Inv.of_cache [DecidableEq Cert] (h : s.Inv) {l : CacheLabel} {fetching : Fetching Cert}
    (hcall : ∀ cert_url session_id, l ≠ .checkAndFetch cert_url session_id)
    (hnext : s.fetching.next botan regex l = some fetching) :
    ({ s with fetching := fetching, events := s.events ++ s.posted botan l } :
      Identifying Identity Cert).Inv := by
  refine h.of_le rfl fun session_id url => ?_
  show registrations fetching.cache.entries session_id url +
      responses (s.events ++ s.posted botan l) session_id url ≤
    registrations s.fetching.cache.entries session_id url + responses s.events session_id url
  rw [responses_append]
  by_cases hreply : ∃ i data now, l = .processHttpReply i data now
  · obtain ⟨i, data, now, rfl⟩ := hreply
    obtain ⟨f, hf, rfl⟩ := Option.map_eq_some_iff.mp hnext
    -- the events for sessions without queue are dropped
    have hposted := responses_filter_le (fun e => s.hasQueue e.session_id)
      (s.fetching.cache.processHttpReply botan f.token data now).2 session_id url
    have hreply := registrations_reply botan s.fetching.cache f.token data now session_id url
    simp only [Fetching.reply, posted, hf]
    omega
  · have hother : ∀ i data now, l ≠ .processHttpReply i data now :=
      fun i data now heq => hreply ⟨i, data, now, heq⟩
    have hle := (Renewing.next hcall hother hnext).registrations_le session_id url
    rw [posted_of_ne hother]
    exact Nat.add_le_add_right hle _

/-! ### Steps of the legs -/

/-- A step that leaves the cache and the events alone. -/
theorem Inv.of_stage (h : s.Inv) {leg leg' : IdentityLeg Identity}
    (hleg : s.legs ltag = some leg) (hsound : leg'.Sound)
    (hcerts : leg'.awaited_identity_certs = leg.awaited_identity_certs) :
    (s.setLeg ltag leg').Inv := by
  refine h.of_setLeg rfl hsound (fun _ _ _ => Nat.le_refl _) fun url => ?_
  refine ⟨h.pending_le ltag url, fun hpos => ?_⟩
  rw [hcerts]
  exact h.mem_awaited hleg hpos

/-- A leg with a new tag, for which nothing is pending. -/
theorem Inv.of_new (h : s.Inv) (hnone : s.legs ltag = none) {leg : IdentityLeg Identity}
    (hsound : leg.Sound) : (s.setLeg ltag leg).Inv := by
  refine h.of_setLeg rfl hsound (fun _ _ _ => Nat.le_refl _) fun url => ?_
  have hzero : (s.setLeg ltag leg).pending ltag url = 0 := h.pending_eq_zero hnone
  exact ⟨by omega, fun hpos => by omega⟩

/-- The session is gone, and its queue with it. -/
theorem Inv.of_destroyed (h : s.Inv) {leg : IdentityLeg Identity}
    (hleg : s.legs ltag = some leg) :
    ({ s.setLeg ltag { leg with stage := .destroyed } with
      events := s.events.filter (·.session_id ≠ ltag) } : Identifying Identity Cert).Inv := by
  have hsound := h.sound ltag leg hleg
  have hle : ∀ session_id url,
      ({ s.setLeg ltag { leg with stage := .destroyed } with
        events := s.events.filter (·.session_id ≠ ltag) } :
        Identifying Identity Cert).pending session_id url ≤ s.pending session_id url :=
    fun session_id url => Nat.add_le_add_left (responses_filter_le _ s.events session_id url) _
  refine h.of_setLeg rfl ?_ (fun session_id url _ => hle session_id url) fun url => ?_
  · exact ⟨hsound.once, fun _ _ hstage => IdentityStage.noConfusion hstage, hsound.awaiting,
      fun hstage => IdentityStage.noConfusion hstage⟩
  · exact ⟨Nat.le_trans (hle ltag url) (h.pending_le ltag url),
      fun hpos => h.mem_awaited hleg (Nat.lt_of_lt_of_le hpos (hle ltag url))⟩

/-- A leg that adds a header without a new registration. -/
theorem Inv.of_added (h : s.Inv) {leg leg' : IdentityLeg Identity} {fetching : Fetching Cert}
    (hleg : s.legs ltag = some leg) (hsound : leg'.Sound)
    (hcerts : ∀ url ∈ leg.awaited_identity_certs, url ∈ leg'.awaited_identity_certs)
    (hentries : Renewing s.fetching.cache.entries fetching.cache.entries) :
    ({ s.setLeg ltag leg' with fetching := fetching } : Identifying Identity Cert).Inv := by
  have hle : ∀ session_id url,
      ({ s.setLeg ltag leg' with fetching := fetching } : Identifying Identity Cert).pending
        session_id url ≤ s.pending session_id url :=
    fun session_id url => Nat.add_le_add_right (hentries.registrations_le session_id url) _
  refine h.of_setLeg rfl hsound (fun session_id url _ => hle session_id url) fun url => ?_
  exact ⟨Nat.le_trans (hle ltag url) (h.pending_le ltag url), fun hpos =>
    hcerts url (h.mem_awaited hleg (Nat.lt_of_lt_of_le hpos (hle ltag url)))⟩

/-- A leg that is registered for a URL that it has not awaited. -/
theorem Inv.of_registered (h : s.Inv) {leg leg' : IdentityLeg Identity} {url : String}
    {fetching : Fetching Cert} (hleg : s.legs ltag = some leg) (hsound : leg'.Sound)
    (hcerts : ∀ u ∈ leg.awaited_identity_certs, u ∈ leg'.awaited_identity_certs)
    (hurl : url ∈ leg'.awaited_identity_certs) (hanew : url ∉ leg.awaited_identity_certs)
    (hnone : s.fetching.cache.entries.lookup url = none)
    (hentries : fetching.cache.entries =
      s.fetching.cache.entries.insert url { defer_sessions := [ltag] }) :
    ({ s.setLeg ltag leg' with fetching := fetching } : Identifying Identity Cert).Inv := by
  -- pending responses of others, and of the leg for other URLs, are as before
  have hsame : ∀ session_id u, session_id ≠ ltag ∨ u ≠ url →
      ({ s.setLeg ltag leg' with fetching := fetching } : Identifying Identity Cert).pending
        session_id u ≤ s.pending session_id u := by
    intro session_id u hne
    show registrations fetching.cache.entries session_id u + responses s.events session_id u ≤
      registrations s.fetching.cache.entries session_id u + responses s.events session_id u
    rw [hentries]
    by_cases hu : u = url
    · subst hu
      have hid : session_id ≠ ltag := hne.resolve_right (fun hne => hne rfl)
      rw [registrations_insert, List.count_singleton, if_neg (by simpa using hid.symm)]
      omega
    · rw [registrations_insert_ne _ _ hu]
  refine h.of_setLeg rfl hsound (fun session_id u hid => hsame session_id u (.inl hid))
    fun u => ?_
  by_cases hu : u = url
  · subst hu
    -- nothing was pending for the URL, and now the registration is
    have hzero : s.pending ltag u = 0 := by
      by_contra hne
      exact hanew (h.mem_awaited hleg (Nat.pos_of_ne_zero hne))
    have hone : ({ s.setLeg ltag leg' with fetching := fetching } :
        Identifying Identity Cert).pending ltag u = 1 := by
      have hresponses : responses s.events ltag u = 0 :=
        (Nat.add_eq_zero_iff.mp hzero).2
      show registrations fetching.cache.entries ltag u + responses s.events ltag u = 1
      rw [hentries, registrations_insert, hresponses, List.count_singleton_self]
    exact ⟨Nat.le_of_eq hone, fun _ => hurl⟩
  · have hle := hsame ltag u (.inr hu)
    exact ⟨Nat.le_trans hle (h.pending_le ltag u),
      fun hpos => hcerts u (h.mem_awaited hleg (Nat.lt_of_lt_of_le hpos hle))⟩

/-- A leg with an event is not routed yet, because it awaits the URL of the event. -/
theorem Inv.routed_of_event (h : s.Inv) {leg : IdentityLeg Identity} {e : CertCacheResponse}
    (hleg : s.legs ltag = some leg) (hmem : e ∈ s.events) (hid : e.session_id = ltag) :
    leg.routed = [] := by
  have hpos : 0 < responses s.events ltag e.cert_url :=
    List.countP_pos_iff.mpr ⟨e, hmem, by simp [hid]⟩
  have hpending : 0 < s.pending ltag e.cert_url :=
    Nat.lt_of_lt_of_le hpos (Nat.le_add_left _ _)
  exact (h.sound ltag leg hleg).awaiting (List.ne_nil_of_mem (h.mem_awaited hleg hpending))

/-- The leg takes the only response for a URL. -/
theorem Inv.of_event (h : s.Inv) {leg : IdentityLeg Identity} {e : CertCacheResponse}
    (hleg : s.legs ltag = some leg)
    (hreading : ∀ unread malformed, leg.stage ≠ .onInvite unread malformed)
    (hmem : e ∈ s.events) (hid : e.session_id = ltag) (now : Int) :
    ({ s.setLeg ltag (leg.onCertCacheReply lib cfg regex s.fetching.cache now e) with
      events := s.events.erase e } : Identifying Identity Cert).Inv := by
  have hsound := h.sound ltag leg hleg
  have hrouted := h.routed_of_event hleg hmem hid
  have herase := responses_erase hmem
  have hposted := herase ltag e.cert_url
  rw [if_pos ⟨hid, rfl⟩] at hposted
  have hle := h.pending_le ltag e.cert_url
  have hafter : ∀ session_id url,
      registrations s.fetching.cache.entries session_id url +
          responses (s.events.erase e) session_id url ≤ s.pending session_id url := by
    intro session_id url
    have := herase session_id url
    unfold pending
    omega
  have hown : ∀ url, 0 < registrations s.fetching.cache.entries ltag url +
        responses (s.events.erase e) ltag url →
      url ∈ leg.awaited_identity_certs.filter (· ≠ e.cert_url) := by
    intro url hleft
    have hstill := h.mem_awaited hleg (Nat.lt_of_lt_of_le hleft (hafter ltag url))
    refine List.mem_filter.mpr ⟨hstill, decide_eq_true fun hurl => ?_⟩
    -- no second response for the URL of the event
    subst hurl
    unfold pending at hle
    omega
  unfold IdentityLeg.onCertCacheReply
  by_cases hempty : leg.awaited_identity_certs.filter (· ≠ e.cert_url) = []
  · simp only [hempty, List.isEmpty_nil, if_true]
    have hcerts := IdentityLeg.onIdentityReady_fields lib
      { leg with awaited_identity_certs := [] } cfg regex s.fetching.cache now
    refine h.of_setLeg rfl ?_ (fun session_id url _ => hafter session_id url) fun url => ?_
    · exact IdentityLeg.sound_onIdentityReady lib cfg regex _ now hreading rfl hrouted
    · rw [hcerts.2.1]
      exact ⟨Nat.le_trans (hafter ltag url) (h.pending_le ltag url),
        fun hleft => hempty ▸ hown url hleft⟩
  · simp only [List.isEmpty_iff, hempty, if_false]
    refine h.of_setLeg rfl ?_ (fun session_id url _ => hafter session_id url) fun url => ?_
    · exact ⟨hsound.once, fun _ _ _ => hrouted, fun _ => hrouted,
        fun _ hnone => absurd hnone hempty⟩
    · exact ⟨Nat.le_trans (hafter ltag url) (h.pending_le ltag url), hown url⟩

/-! ### All runs -/

theorem inv_stepped [DecidableEq Cert] {l : IdentityLabel} (h : s.Inv)
    (hok : s.Anew lib regex l) (hstep : s.Stepped lib cfg pc botan regex l s') : s'.Inv := by
  -- a leg that reads its headers is sound whatever it awaits
  have hreading : ∀ {ltag : String} {leg : IdentityLeg Identity} {header_value : List Char}
      {unread : List (List Char)} {malformed : Bool} (certs : List String),
      s.legs ltag = some leg → leg.stage = .onInvite (header_value :: unread) malformed →
      (added lib leg header_value unread malformed certs).Sound := by
    intro ltag leg header_value unread malformed certs hleg hstage
    have hsound := h.sound ltag leg hleg
    have hrouted := hsound.reading _ _ hstage
    exact ⟨hsound.once, fun _ _ _ => hrouted, fun _ => hrouted,
      fun hstage => IdentityStage.noConfusion hstage⟩
  cases hstep with
  | cache hcall hnext => exact h.of_cache hcall hnext
  | parsing hnone hparse hloop =>
    refine h.of_new hnone ⟨Nat.zero_le _, fun _ _ _ => rfl, fun hne => absurd rfl hne, ?_⟩
    exact fun hstage => IdentityStage.noConfusion hstage
  | plain hnone hplain =>
    exact h.of_new hnone (IdentityLeg.sound_onIdentityReady lib cfg regex _ _
      (fun _ _ hstage => IdentityStage.noConfusion hstage) rfl rfl)
  | noUrl hleg hstage hurl => exact h.of_stage hleg (hreading _ hleg hstage) rfl
  | @known ltag leg _ _ _ cert_url hleg hstage hurl hret =>
    refine h.of_added hleg (hreading _ hleg hstage) (fun _ => id) ?_
    -- a call that returns `true` has not made the entry
    have hmissing : s.fetching.cache.isTrustedRepository regex cert_url = true →
        s.fetching.cache.entries.lookup cert_url ≠ none := by
      intro htrusted hnone
      simp [CertCache.checkAndFetch, hnone, htrusted] at hret
    have hcheck := Renewing.checkAndFetch regex s.fetching.cache cert_url ltag hmissing
    simp only [Fetching.check, hret, if_true]
    exact hcheck
  | @awaited ltag leg header_value _ _ cert_url hleg hstage hurl hret =>
    have hnext : nextUrl lib leg = certUrl lib header_value := by
      rw [nextUrl, hstage]
    obtain ⟨htrusted, hcase⟩ := Fetching.checkAndFetch_false hret
    rcases hcase with ⟨hnone, heq⟩ | ⟨entry, hentry, -, heq⟩
    · have hanew : cert_url ∉ leg.awaited_identity_certs := by
        intro hmem
        have hsome := hok leg hleg cert_url (hnext.trans hurl) hmem htrusted
        rw [hnone] at hsome
        contradiction
      refine h.of_registered hleg (hreading _ hleg hstage) (fun _ => List.mem_insert_of_mem)
        List.mem_insert_self hanew hnone ?_
      simp only [Fetching.check, heq, Bool.false_eq_true, if_false, Fetching.operate]
    · -- the entry is being loaded, and the leg is not put into its sessions
      refine h.of_added hleg (hreading _ hleg hstage) (fun _ => List.mem_insert_of_mem) ?_
      simp only [Fetching.check, heq, Bool.false_eq_true, if_false, Fetching.operate]
      exact .refl _
  | refused hleg hstage =>
    have hsound := h.sound _ _ hleg
    have hrouted := hsound.reading _ _ hstage
    refine h.of_stage hleg ⟨hsound.once, fun _ _ _ => hrouted, fun _ => hrouted, ?_⟩ rfl
    exact fun hstage => IdentityStage.noConfusion hstage
  | waits hleg hstage hne =>
    have hsound := h.sound _ _ hleg
    have hrouted := hsound.reading _ _ hstage
    exact h.of_stage hleg ⟨hsound.once, fun _ _ _ => hrouted, fun _ => hrouted,
      fun _ hnone => absurd hnone hne⟩ rfl
  | ready hleg hstage hnone =>
    have hrouted := (h.sound _ _ hleg).reading _ _ hstage
    refine h.of_stage hleg ?_ (IdentityLeg.onIdentityReady_fields lib _ cfg regex _ _).2.1
    exact IdentityLeg.sound_onIdentityReady lib cfg regex _ _
      (fun _ _ hstage => IdentityStage.noConfusion hstage) hnone hrouted
  | event hleg hreading hgone hmem hid => exact h.of_event hleg hreading hmem hid _
  | destroyed hleg => exact h.of_destroyed hleg

theorem inv_init [DecidableEq Cert] (h : (system lib cfg pc botan regex).init s) : s.Inv := by
  obtain ⟨⟨hentries, -, -⟩, hlegs, hevents⟩ := h
  have hzero : ∀ session_id url, s.pending session_id url = 0 := by
    intro session_id url
    unfold pending
    rw [hentries, hevents, registrations_none (AList.lookup_empty url)]
    rfl
  constructor
  · intro session_id url
    rw [hzero]
    exact Nat.zero_le _
  · intro session_id url hpos
    rw [hzero] at hpos
    exact absurd hpos (Nat.lt_irrefl 0)
  · intro session_id leg hleg
    rw [hlegs] at hleg
    contradiction

theorem inv_reachable [DecidableEq Cert] {ok : Identifying Identity Cert → IdentityLabel → Prop}
    (hok : ∀ s l, ok s l → s.Anew lib regex l)
    (h : (system lib cfg pc botan regex).ReachableUnder ok s) : s.Inv :=
  System.invariant_under Inv (fun _ => inv_init)
    (fun s l _ hinv hl hnext => inv_stepped hinv (hok s l hl) (next_stepped hnext)) h

/-- **One routing request**: in every run in which no leg is registered again for a URL that
    it awaits, a leg requests the routing once at most: neither while it reads the headers of
    its request nor while it awaits a certificate, and as soon as it awaits none. -/
theorem routed_once [DecidableEq Cert] (lib : IdentityLib Identity Cert Key) (cfg : IdentityCfg)
    (pc : ParseCommon) (botan : BotanX509 Cert) (regex : Regex)
    {s : Identifying Identity Cert}
    (h : (system lib cfg pc botan regex).ReachableUnder (Anew lib regex) s)
    {ltag : String} {leg : IdentityLeg Identity} (hleg : s.legs ltag = some leg) :
    leg.Sound :=
  (inv_reachable (fun _ _ => id) h).sound ltag leg hleg

/-- An identity is its header value, which is a letter; the key of a certificate is its
    byte. -/
def letterLib : IdentityLib (List Char) UInt8 UInt8 where
  parse header_value := (header_value, true)
  get_x5u_url identity := if identity = ['a'] then "https://cr/a" else "https://cr/b"
  get_last_error _ := (0, "")
  get_parsed_header _ := ""
  get_parsed_payload _ := ""
  verify _ key _ _ := if key = 1 then .ok () else .error (-1, "verification")
  subject_public_key := id
  explode hdr_value := [hdr_value]
  trim := id

/-- The system with these parts. -/
abbrev letterSystem : System (Identifying (List Char) UInt8) IdentityLabel :=
  system letterLib ⟨true, 60⟩ .strict Fetching.byteX509 Fetching.plainRegex

/-- An empty cache and no leg. -/
def noLegs : Identifying (List Char) UInt8 where
  fetching := Fetching.emptyCache

/-- The two repositories are trusted. -/
def trustBoth : IdentityLabel :=
  .cache (.reloadTrustedRepositories
    (some [⟨some 1, some "https://cr/a", some true⟩, ⟨some 2, some "https://cr/b", some true⟩]))

/-- A request with two identities is routed after both replies. -/
theorem routed_once_two_headers :
    ∃ s leg, letterSystem.ReachableUnder (Anew letterLib Fetching.plainRegex) s ∧
      s.legs "leg1" = some leg ∧ leg.routed ≠ [] ∧ leg.Sound := by
  obtain ⟨s, hreach, hrouted⟩ := letterSystem.exists_reachableUnder_of_any
    (Anew letterLib Fetching.plainRegex)
    (fun s => (s.legs "leg1").any fun leg => !leg.routed.isEmpty) noLegs
    [trustBoth, .onInvite "leg1" "Identity:a\nIdentity:b\n".toList true 0,
      .addIdentityHdr "leg1", .addIdentityHdr "leg1", .endOfHeaders "leg1" 0,
      .cache (.processHttpReply 0 [1] 0), .onCertCacheReply "leg1" 0,
      .cache (.processHttpReply 0 [1] 0), .onCertCacheReply "leg1" 0]
    ⟨⟨rfl, rfl, rfl⟩, fun _ => rfl, rfl⟩ (by decide)
  rcases hleg : s.legs "leg1" with _ | leg
  · rw [hleg] at hrouted
    contradiction
  · have hne : leg.routed ≠ [] := by
      rintro hnil
      rw [hleg, Option.any_some, hnil] at hrouted
      contradiction
    exact ⟨s, leg, hreach, hleg, hne,
      routed_once letterLib ⟨true, 60⟩ .strict Fetching.byteX509 Fetching.plainRegex hreach hleg⟩

-- two headers with one URL, whose entry is erased after the first reply: two requests
example : (letterSystem.runUnder (fun _ _ => True) noLegs
    [trustBoth, .onInvite "leg1" "Identity:a\nIdentity:a\n".toList true 0,
      .addIdentityHdr "leg1", .cache (.processHttpReply 0 [1] 0),
      .cache (.ClearCerts (some [some "https://cr/a"])), .addIdentityHdr "leg1",
      .endOfHeaders "leg1" 0, .onCertCacheReply "leg1" 0,
      .cache (.processHttpReply 0 [1] 0), .onCertCacheReply "leg1" 0]).any
    (fun s => (s.legs "leg1").any fun leg => decide (leg.routed.length = 2)) = true := by
  decide

end Identifying

end Yeti.Certs
