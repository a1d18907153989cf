import Yeti.Framework.Refinement
import Yeti.Certs.Awaiting

/-! # No leg is stuck

    A leg that has read its headers is routed or awaits a certificate.  What it awaits
    should be on its way: a request for the URL, with the leg registered for the reply,
    or the event in its queue.  This is so in the runs in which the cache registers the
    sessions that it tells to wait and erases no entry with sessions, the condition
    under which the cache alone notifies everybody; the cache of this system is that one.
-/

open LTS

namespace Yeti.Certs

open Headers Fetching

variable {Identity Cert Key : Type}

/-! ### What keeps the sessions -/

theorem Fetching.KeepsSessions.registrations_le {before after : Entries Cert}
    (h : KeepsSessions before after) (session_id url : String) :
    registrations before session_id url ≤ registrations after session_id url := by
  rcases hentry : before.lookup url with _ | entry
  · rw [registrations_none hentry]
    exact Nat.zero_le _
  · rw [registrations_some hentry]
    by_cases hnone : entry.defer_sessions = []
    · rw [hnone, List.count_nil]
      exact Nat.zero_le _
    · obtain ⟨entry', hentry', hsame⟩ := h.kept url entry hentry hnone
      rw [registrations_some hentry', hsame]

/-- Events of other sessions may be dropped. -/
theorem responses_filter {p : CertCacheResponse → Bool} {events : List CertCacheResponse}
    {session_id : String} (h : ∀ e : CertCacheResponse, e.session_id = session_id → p e = true)
    (url : String) :
    responses (events.filter p) session_id url = responses events session_id url := by
  unfold responses
  rw [List.countP_filter]
  refine List.countP_congr fun e _ => ?_
  by_cases hid : e.session_id = session_id
  · simp [h e hid]
  · simp [hid]

/-- A registered session is one of those of the entry. -/
theorem exists_entry_of_registrations {entries : Entries Cert} {session_id url : String}
    (h : 0 < registrations entries session_id url) :
    ∃ entry, entries.lookup url = some entry ∧ session_id ∈ entry.defer_sessions := by
  rcases hentry : entries.lookup url with _ | entry
  · rw [registrations_none hentry] at h
    exact absurd h (Nat.lt_irrefl 0)
  · rw [registrations_some hentry] at h
    exact ⟨entry, rfl, List.count_pos_iff.mp h⟩

/-- An event takes its URL from the awaited ones. -/
theorem IdentityLeg.onCertCacheReply_awaited {lib : IdentityLib Identity Cert Key}
    (leg : IdentityLeg Identity) {cfg : IdentityCfg} {regex : Regex} {cache : CertCache Cert}
    {now : Int} {e : CertCacheResponse} :
    (leg.onCertCacheReply lib cfg regex cache now e).awaited_identity_certs =
      leg.awaited_identity_certs.filter (· ≠ e.cert_url) := by
  unfold IdentityLeg.onCertCacheReply
  dsimp only
  split
  · exact (IdentityLeg.onIdentityReady_fields lib _ cfg regex cache now).2.1
  · rfl

theorem exists_event_of_responses {events : List CertCacheResponse} {session_id url : String}
    (h : 0 < responses events session_id url) :
    ∃ e ∈ events, e.session_id = session_id ∧ e.cert_url = url := by
  obtain ⟨e, he, htest⟩ := List.countP_pos_iff.mp h
  exact ⟨e, he, by simpa using htest⟩

namespace Fetching

variable [DecidableEq Cert] {botan : BotanX509 Cert} {regex : Regex}

theorem inv_init {s : Fetching Cert} (h : (system botan regex).init s) : s.Inv := by
  obtain ⟨hentries, -, hwaiting⟩ := h
  constructor
  · intro w hw
    simp [hwaiting] at hw
  · intro url entry hentry
    simp [hentries] at hentry

omit [DecidableEq Cert] in
/-- The timer leaves the entries that are being loaded alone. -/
theorem keeps_onTimer {s : Fetching Cert} (h : s.Inv) (now : Int) :
    KeepsSessions s.cache.entries (s.cache.onTimer regex now).1.entries := by
  refine keeps_forEach s.cache _ fun url entry hentry htreat => ?_
  by_cases hstate : entry.state = .LOADING
  · rw [if_pos hstate] at htreat
    contradiction
  · exact h.noneDeferred hentry hstate

end Fetching

namespace Identifying

variable {lib : IdentityLib Identity Cert Key} {cfg : IdentityCfg} {pc : ParseCommon}
  {botan : BotanX509 Cert} {regex : Regex} {s s' : Identifying Identity Cert} {ltag : String}

/-! ### The cache of the system -/

variable (lib regex) in
/-- The condition of the cache, for the call that the leg makes. -/
def Registers (s : Identifying Identity Cert) : IdentityLabel → Prop
  | .cache l => s.fetching.Registers regex l
  | .addIdentityHdr ltag =>
    ∀ leg ∈ s.legs ltag, ∀ url ∈ nextUrl lib leg,
      s.fetching.Registers regex (.checkAndFetch url ltag)
  | _ => True

section Cache

variable [DecidableEq Cert]

/-- A step of the system is a step of its cache or none. -/
theorem steps_fetching {l : IdentityLabel} (hok : s.Registers lib regex l)
    (hstep : s.Stepped lib cfg pc botan regex l s') :
    (Fetching.system botan regex).StepsUnder (Fetching.Registers regex)
      s.fetching s'.fetching := by
  cases hstep with
  | cache hcall hnext => exact .single _ hok hnext
  | parsing hnone hparse hloop => exact .refl
  | plain hnone hplain => exact .refl
  | noUrl hleg hstage hurl => exact .refl
  | @known ltag leg _ _ _ cert_url hleg hstage hurl hret =>
    exact .single (.checkAndFetch cert_url ltag)
      (hok leg hleg cert_url (by rw [nextUrl, hstage]; exact hurl)) rfl
  | @awaited ltag leg _ _ _ cert_url hleg hstage hurl hret =>
    exact .single (.checkAndFetch cert_url ltag)
      (hok leg hleg cert_url (by rw [nextUrl, hstage]; exact hurl)) rfl
  | refused hleg hstage => exact .refl
  | waits hleg hstage hne => exact .refl
  | ready hleg hstage hnone => exact .refl
  | event hleg hreading hgone hmem hid => exact .refl
  | destroyed hleg => exact .refl

/-- The runs of the system are runs of its cache. -/
theorem reachable_fetching
    (h : (system lib cfg pc botan regex).ReachableUnder (Registers lib regex) s) :
    (Fetching.system botan regex).ReachableUnder (Fetching.Registers regex) s.fetching := by
  have hboth : True ∧ (Fetching.system botan regex).ReachableUnder (Fetching.Registers regex)
      s.fetching := by
    refine System.mapped_reachable (fun s : Identifying Identity Cert => s.fetching)
      (fun _ => True) ?_ ?_ h
    · intro s hinit
      exact ⟨trivial, hinit.1⟩
    · intro s l s' _ hok hnext
      exact ⟨trivial, steps_fetching hok (next_stepped hnext)⟩
  exact hboth.2

theorem inv_fetching
    (h : (system lib cfg pc botan regex).ReachableUnder (Registers lib regex) s) :
    s.fetching.Inv :=
  System.invariant_under Fetching.Inv (fun _ => Fetching.inv_init)
    (fun _ _ _ => Fetching.inv_next) (reachable_fetching h)

/-! ### Awaited certificates are on their way -/

/-- What a session with a queue awaits is pending for it. -/
def Answered (s : Identifying Identity Cert) : Prop :=
  ∀ session_id leg, s.legs session_id = some leg → leg.stage ≠ .destroyed →
    ∀ url ∈ leg.awaited_identity_certs, 0 < s.pending session_id url

omit [DecidableEq Cert] in
/-- A step of one leg that takes nothing from the others. -/
theorem Answered.of_setLeg (h : s.Answered) {leg : IdentityLeg Identity}
    (hlegs : s'.legs = Function.update s.legs ltag (some leg))
    (hother : ∀ session_id url, session_id ≠ ltag →
      s.pending session_id url ≤ s'.pending session_id url)
    (hown : leg.stage ≠ .destroyed →
      ∀ url ∈ leg.awaited_identity_certs, 0 < s'.pending ltag url) : s'.Answered := by
  intro session_id leg' hleg' hstage url hurl
  rw [hlegs] at hleg'
  by_cases hid : session_id = ltag
  · subst hid
    rw [Function.update_self] at hleg'
    cases Option.some.inj hleg'
    exact hown hstage url hurl
  · rw [Function.update_of_ne hid] at hleg'
    exact Nat.lt_of_lt_of_le (h session_id leg' hleg' hstage url hurl) (hother session_id url hid)

omit [DecidableEq Cert] in
/-- A step of one leg with the cache and the events as they are. -/
theorem Answered.of_stage (h : s.Answered) {leg : IdentityLeg Identity}
    (hown : leg.stage ≠ .destroyed →
      ∀ url ∈ leg.awaited_identity_certs, 0 < s.pending ltag url) :
    (s.setLeg ltag leg).Answered :=
  h.of_setLeg rfl (fun _ _ _ => Nat.le_refl _) hown

omit [DecidableEq Cert] in
theorem Answered.of_same (h : s.Answered) {leg leg' : IdentityLeg Identity}
    (hleg : s.legs ltag = some leg) (hlive : leg.stage ≠ .destroyed)
    (hcerts : leg'.awaited_identity_certs = leg.awaited_identity_certs) :
    (s.setLeg ltag leg').Answered :=
  h.of_stage fun _ url hurl => h ltag leg hleg hlive url (hcerts ▸ hurl)

omit [DecidableEq Cert] in
/-- The leg takes an event, which answers its URL. -/
theorem Answered.of_event (h : s.Answered) {leg : IdentityLeg Identity} {e : CertCacheResponse}
    (hleg : s.legs ltag = some leg) (hlive : leg.stage ≠ .destroyed) (hmem : e ∈ s.events)
    (hid : e.session_id = ltag) (now : Int) :
    ({ s.setLeg ltag (leg.onCertCacheReply lib cfg regex s.fetching.cache now e) with
      events := s.events.erase e } : Identifying Identity Cert).Answered := by
  have hsame : ∀ session_id url, ¬(e.session_id = session_id ∧ e.cert_url = url) →
      s.pending session_id url ≤
        registrations s.fetching.cache.entries session_id url +
          responses (s.events.erase e) session_id url := by
    intro session_id url hne
    have herase := responses_erase hmem session_id url
    rw [if_neg hne] at herase
    unfold pending
    omega
  refine h.of_setLeg rfl (fun session_id url hne => hsame session_id url ?_) fun _ url hurl => ?_
  · exact fun hboth => hne (hboth.1.symm.trans hid)
  · rw [leg.onCertCacheReply_awaited] at hurl
    obtain ⟨hurl, hne⟩ := List.mem_filter.mp hurl
    have hpos := h ltag leg hleg hlive url hurl
    exact Nat.lt_of_lt_of_le hpos (hsame ltag url fun hboth => of_decide_eq_true hne hboth.2.symm)

/-- A step of the cache takes nothing from a session that has a queue. -/
theorem pending_le_of_cache (hinv : s.fetching.Inv) {l : CacheLabel} {fetching : Fetching Cert}
    (hcall : ∀ cert_url session_id, l ≠ .checkAndFetch cert_url session_id)
    (hok : s.fetching.Registers regex l) (hnext : s.fetching.next botan regex l = some fetching)
    {session_id : String} (hqueue : s.hasQueue session_id = true) (url : String) :
    s.pending session_id url ≤
      registrations fetching.cache.entries session_id url +
        responses (s.events ++ s.posted botan l) session_id url := by
  rw [responses_append]
  -- all but a reply keep the sessions
  have hkept : KeepsSessions s.fetching.cache.entries fetching.cache.entries →
      s.pending session_id url ≤ registrations fetching.cache.entries session_id url +
        (responses s.events session_id url + responses (s.posted botan l) session_id url) := by
    intro hkeeps
    have hle := hkeeps.registrations_le session_id url
    unfold pending
    omega
  cases l with
  | checkAndFetch cert_url session_id => exact absurd rfl (hcall cert_url session_id)
  | processHttpReply i data now =>
    obtain ⟨f, hf, rfl⟩ := Option.map_eq_some_iff.mp hnext
    have hreply := registrations_reply botan s.fetching.cache f.token data now session_id url
    have hposted : responses (s.posted botan (.processHttpReply i data now)) session_id url =
        responses (s.fetching.cache.processHttpReply botan f.token data now).2 session_id url := by
      simp only [posted, hf]
      exact responses_filter (fun e hid => hid ▸ hqueue) url
    rw [hposted]
    simp only [pending, Fetching.reply]
    omega
  | onTimer now =>
    rw [← Option.some.inj hnext] at hkept ⊢
    exact hkept (keeps_onTimer hinv now)
  | ClearCerts args =>
    rw [← Option.some.inj hnext] at hkept ⊢
    exact hkept (keeps_ClearCerts s.fetching args hok)
  | RenewCerts args =>
    rw [← Option.some.inj hnext] at hkept ⊢
    exact hkept (keeps_RenewCerts regex s.fetching args hok)
  | reloadTrustedRepositories data =>
    rw [← Option.some.inj hnext] at hkept ⊢
    refine hkept ?_
    rcases data with _ | rows
    · exact .refl _
    · exact .refl _
  | reloadTrustedCertificates data =>
    rw [← Option.some.inj hnext] at hkept ⊢
    exact hkept (.refl _)

theorem answered_stepped (h : s.Answered) (hinv : s.fetching.Inv) {l : IdentityLabel}
    (hok : s.Registers lib regex l) (hstep : s.Stepped lib cfg pc botan regex l s') :
    s'.Answered := by
  cases hstep with
  | cache hcall hnext =>
    intro session_id leg hleg hstage url hurl
    have hqueue : s.hasQueue session_id = true := by
      have hleg : s.legs session_id = some leg := hleg
      simp [hasQueue, hleg, hstage]
    exact Nat.lt_of_lt_of_le (h session_id leg hleg hstage url hurl)
      (pending_le_of_cache hinv hcall hok hnext hqueue url)
  | parsing hnone hparse hloop =>
    exact h.of_stage fun _ url hurl => absurd hurl (List.not_mem_nil)
  | @plain _ hdrs require now hnone hplain =>
    have hcerts := (IdentityLeg.onIdentityReady_fields lib
      ⟨hdrs, require, .invited, [], [], [], []⟩ cfg regex s.fetching.cache now).2.1
    refine h.of_stage fun _ url hurl => ?_
    rw [hcerts] at hurl
    exact absurd hurl (List.not_mem_nil)
  | noUrl hleg hstage hurl =>
    exact h.of_same hleg (by rw [hstage]; exact IdentityStage.noConfusion) rfl
  | @known ltag leg _ _ _ cert_url hleg hstage hurl hret =>
    have hlive : leg.stage ≠ .destroyed := by rw [hstage]; exact IdentityStage.noConfusion
    have hle : ∀ session_id url, s.pending session_id url ≤
        registrations (s.fetching.check regex cert_url ltag).cache.entries session_id url +
          responses s.events session_id url := by
      intro session_id url
      have hkeeps := keeps_checkAndFetch hinv hret
      simp only [Fetching.check, hret, if_true]
      exact Nat.add_le_add_right (hkeeps.registrations_le session_id url) _
    exact h.of_setLeg rfl (fun session_id url _ => hle session_id url)
      fun _ url hurl => Nat.lt_of_lt_of_le (h ltag leg hleg hlive url hurl) (hle ltag url)
  | @awaited ltag leg _ _ _ cert_url hleg hstage hurl hret =>
    have hlive : leg.stage ≠ .destroyed := by rw [hstage]; exact IdentityStage.noConfusion
    have hcall := hok leg hleg cert_url (by rw [nextUrl, hstage]; exact hurl)
    -- the invariant of the cache after the call tells that the leg is registered
    have hafter : (s.fetching.check regex cert_url ltag).Inv := Fetching.inv_check hinv hcall
    have hwaits : (cert_url, ltag) ∈ (s.fetching.check regex cert_url ltag).waiting := by
      simp only [Fetching.check, hret, Bool.false_eq_true, if_false]
      exact List.mem_cons_self
    have hregistered : 0 < registrations
        (s.fetching.check regex cert_url ltag).cache.entries ltag cert_url := by
      obtain ⟨entry, hentry, hmem⟩ := hafter.registered _ hwaits
      rw [registrations_some hentry]
      exact List.count_pos_iff.mpr hmem
    have hle : ∀ session_id url, s.pending session_id url ≤
        registrations (s.fetching.check regex cert_url ltag).cache.entries session_id url +
          responses s.events session_id url := by
      intro session_id url
      refine Nat.add_le_add_right ?_ _
      obtain ⟨-, ⟨hnone, heq⟩ | ⟨entry, hentry, -, heq⟩⟩ := checkAndFetch_false hret
      · simp only [Fetching.check, heq, Bool.false_eq_true, if_false, Fetching.operate]
        by_cases hsame : url = cert_url
        · subst hsame
          rw [registrations_none hnone]
          exact Nat.zero_le _
        · rw [registrations_insert_ne _ _ hsame]
      · simp only [Fetching.check, heq, Bool.false_eq_true, if_false, Fetching.operate]
        exact Nat.le_refl _
    refine h.of_setLeg rfl (fun session_id url _ => hle session_id url) fun _ url hurl => ?_
    rcases List.mem_insert_iff.mp hurl with rfl | hurl
    · exact Nat.lt_of_lt_of_le hregistered (Nat.le_add_right _ _)
    · exact Nat.lt_of_lt_of_le (h ltag leg hleg hlive url hurl) (hle ltag url)
  | refused hleg hstage =>
    exact h.of_same hleg (by rw [hstage]; exact IdentityStage.noConfusion) rfl
  | waits hleg hstage hne =>
    exact h.of_same hleg (by rw [hstage]; exact IdentityStage.noConfusion) rfl
  | ready hleg hstage hnone =>
    exact h.of_same hleg (by rw [hstage]; exact IdentityStage.noConfusion)
      (IdentityLeg.onIdentityReady_fields lib _ cfg regex _ _).2.1
  | event hleg hreading hgone hmem hid => exact h.of_event hleg hgone hmem hid _
  | @destroyed ltag leg hleg =>
    refine h.of_setLeg rfl (fun session_id url hne => ?_) fun hstage => absurd rfl hstage
    have hsame : responses (s.events.filter (·.session_id ≠ ltag)) session_id url =
        responses s.events session_id url :=
      responses_filter (fun e hid => decide_eq_true (hid ▸ hne)) url
    show _ ≤ registrations s.fetching.cache.entries session_id url +
      responses (s.events.filter (·.session_id ≠ ltag)) session_id url
    rw [hsame]
    exact Nat.le_refl _

theorem answered_reachable {ok : Identifying Identity Cert → IdentityLabel → Prop}
    (hok : ∀ s l, ok s l → s.Registers lib regex l)
    (h : (system lib cfg pc botan regex).ReachableUnder ok s) : s.Answered := by
  induction h with
  | init hinit =>
    intro session_id leg hleg
    rw [hinit.2.1] at hleg
    contradiction
  | step l hreach hl hnext ih =>
    -- the cache of the state before the step keeps its own invariant
    have hinv := inv_fetching (hreach.weaken hok)
    exact answered_stepped ih hinv (hok _ l hl) (next_stepped hnext)

/-- **No leg is stuck**: in every run in which the cache registers the sessions it tells to
    wait, keeps the entries with sessions, and registers no leg again for a URL it awaits, a
    leg that has read its headers is in one of two states.  It has requested the routing
    once and nothing more will come for it; or it has not, and each of the certificates it
    awaits will be answered once: the event is in its queue, or a request is under way. -/
theorem routed_or_answered (lib : IdentityLib Identity Cert Key) (cfg : IdentityCfg)
    (pc : ParseCommon) (botan : BotanX509 Cert) (regex : Regex)
    {s : Identifying Identity Cert}
    (h : (system lib cfg pc botan regex).ReachableUnder
      (fun s l => s.Anew lib regex l ∧ s.Registers lib regex l) s)
    {ltag : String} {leg : IdentityLeg Identity} (hleg : s.legs ltag = some leg)
    (hstage : leg.stage = .invited) :
    (leg.routed.length = 1 ∧ ∀ url, s.pending ltag url = 0) ∨
      (leg.routed = [] ∧ leg.awaited_identity_certs ≠ [] ∧
        ∀ url ∈ leg.awaited_identity_certs, s.pending ltag url = 1 ∧
          ((∃ e ∈ s.events, e.session_id = ltag ∧ e.cert_url = url) ∨
            ∃ f ∈ s.fetching.fetches, f.token = url)) := by
  have hinv := inv_reachable (fun _ _ => And.left) h
  have hanswered := answered_reachable (fun _ _ => And.right) h
  have hsound := hinv.sound ltag leg hleg
  by_cases hnone : leg.awaited_identity_certs = []
  · left
    refine ⟨Nat.le_antisymm hsound.once ?_, fun url => ?_⟩
    · exact List.length_pos_iff.mpr (hsound.invited hstage hnone)
    · by_contra hne
      have hmem := hinv.mem_awaited hleg (Nat.pos_of_ne_zero hne)
      rw [hnone] at hmem
      exact absurd hmem List.not_mem_nil
  · right
    refine ⟨hsound.awaiting hnone, hnone, fun url hurl => ?_⟩
    have hlive : leg.stage ≠ .destroyed := by rw [hstage]; exact IdentityStage.noConfusion
    have hpos := hanswered ltag leg hleg hlive url hurl
    refine ⟨Nat.le_antisymm (hinv.pending_le ltag url) hpos, ?_⟩
    -- the one response is an event, or a registration with its request
    rcases Nat.eq_zero_or_pos (responses s.events ltag url) with hzero | hevent
    · right
      have hregistered : 0 < registrations s.fetching.cache.entries ltag url := by
        unfold pending at hpos
        omega
      obtain ⟨entry, hentry, hmem⟩ := exists_entry_of_registrations hregistered
      have hfetching := inv_fetching (h.weaken fun _ _ => And.right)
      exact (hfetching.loading url entry hentry (List.ne_nil_of_mem hmem)).2
    · left
      exact exists_event_of_responses hevent

end Cache

end Identifying

end Yeti.Certs
