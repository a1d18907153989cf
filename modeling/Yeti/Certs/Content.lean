import Yeti.Certs.Notification

/-! # What an entry holds after a reply

    The chain of an entry should be the certificates of the last reply, and its state
    should tell whether the first of them can be used.  `processHttpReply` appends to
    the chain that it finds, and it ignores every exception once the chain has a
    certificate, also the one for a first certificate that has expired.
-/

open LTS

namespace Yeti.Certs

variable {Cert : Type}

/-- Path validation throws for an empty chain, and only then. -/
def BotanX509.ThrowsOnEmpty (botan : BotanX509 Cert) : Prop :=
  ∀ chain store now, (∃ e, botan.x509_path_validate chain store now = .error e) ↔ chain = []

namespace CertCache

variable (botan : BotanX509 Cert)

/-! ### What is claimed -/

/-- The first certificate of the data. -/
def firstCert (data : List UInt8) : Option Cert :=
  if data.isEmpty then none else (botan.load data).1

/-- The certificates parsed from the data of a reply. -/
def certsOf (now : Int) (data : List UInt8) : List Cert :=
  (readChain botan now data.length data []).1

/-- Right after the reply, the entry holds the certificates of its data, and it is `LOADED`
    exactly if the first of them has not expired. -/
def Content (c : CertCache Cert) (token : String) (data : List UInt8) (now : Int) : Prop :=
  ∀ entry ∈ (c.processHttpReply botan token data now).1.entries.lookup token,
    entry.cert_chain = certsOf botan now data ∧
      entry.state = if (firstCert botan data).any (fun cert => now ≤ botan.not_after cert)
        then .LOADED else .UNAVAILABLE

/-- The key of a `LOADED` entry can be taken from its first certificate. -/
def Filled (entries : Entries Cert) : Prop :=
  ∀ url, ∀ entry ∈ entries.lookup url, entry.state = .LOADED → entry.cert_chain ≠ []

/-! ### Reading the chain -/

variable {botan} {now : Int} {data : List UInt8}

/-- With a certificate in the chain, all further ones are appended. -/
theorem readChain_of_ne_nil (fuel : Nat) (data : List UInt8) {chain : List Cert}
    (hchain : chain ≠ []) :
    readChain botan now fuel data chain =
      (chain ++ (certLoop botan.toBotan fuel data).1, none) := by
  induction fuel generalizing data chain with
  | zero => simp [readChain, certLoop]
  | succ fuel ih =>
    unfold readChain certLoop
    by_cases hempty : data.isEmpty
    · simp [hempty]
    · rw [if_neg hempty, if_neg hempty]
      unfold readCert
      cases hload : botan.load data with
      | mk cert rest =>
        cases cert with
        | none =>
          have hfull : chain.isEmpty = false := by simpa using hchain
          simp only [hfull, Bool.false_eq_true, if_false]
          exact ih rest hchain
        | some cert =>
          have hnext : chain ++ [cert] ≠ [] := by simp
          have hfull : (chain ++ [cert]).isEmpty = false := by simp
          have happend := ih rest hnext
          by_cases hexpired : botan.not_after cert < now
          · simp only [hexpired, if_true, hfull, Bool.false_eq_true, if_false]
            rw [happend, List.append_assoc]
            rfl
          · simp only [hexpired, if_false]
            rw [happend, List.append_assoc]
            rfl

/-- A first certificate that cannot be read ends the loop. -/
theorem readChain_none (hdata : data ≠ []) (hfirst : firstCert botan data = none) :
    readChain botan now data.length data [] = ([], some (botan.loadException data)) := by
  have hempty : data.isEmpty = false := by simpa using hdata
  have hload : (botan.load data).1 = none := by simpa [firstCert, hempty] using hfirst
  obtain ⟨n, hn⟩ : ∃ n, data.length = n + 1 :=
    Nat.exists_eq_succ_of_ne_zero (by simpa using hdata)
  rw [hn]
  unfold readChain readCert
  rw [if_neg (by simp [hempty])]
  cases hpair : botan.load data with
  | mk cert rest =>
    rw [hpair] at hload
    simp only at hload
    simp [hload]

/-- Otherwise all certificates of the data are read. -/
theorem certsOf_some (now : Int) {cert : Cert} (hfirst : firstCert botan data = some cert) :
    ∃ certs, readChain botan now data.length data [] = (cert :: certs, none) ∧
      certsOf botan now data = cert :: certs ∧
      (certLoop botan.toBotan data.length data).1 = cert :: certs := by
  have hempty : data.isEmpty = false := by
    by_contra hdata
    rw [firstCert, if_pos (by simpa using hdata)] at hfirst
    cases hfirst
  have hload : (botan.load data).1 = some cert := by simpa [firstCert, hempty] using hfirst
  obtain ⟨n, hn⟩ : ∃ n, data.length = n + 1 :=
    Nat.exists_eq_succ_of_ne_zero (by simpa using hempty)
  unfold certsOf
  rw [hn]
  unfold readChain certLoop readCert
  rw [if_neg (by simp [hempty]), if_neg (by simp [hempty])]
  cases hpair : botan.load data with
  | mk first rest =>
    rw [hpair] at hload
    simp only at hload
    rw [hload]
    refine ⟨(certLoop botan.toBotan n rest).1, ?_⟩
    have happend : readChain botan now n rest [cert] =
        (cert :: (certLoop botan.toBotan n rest).1, none) :=
      readChain_of_ne_nil n rest (List.cons_ne_nil cert [])
    by_cases hexpired : botan.not_after cert < now
    · simp [hexpired, happend]
    · simp [hexpired, happend]

/-! ### One reply -/

/-- The entry when the data of a reply are going to be read. -/
def received (entry : CertCacheEntry Cert) (data : List UInt8) : CertCacheEntry Cert :=
  { entry with response_data := data, validation_sucessfull := false }

variable (botan) in
/-- The entry that a reply leaves. -/
theorem lookup_processHttpReply {c : CertCache Cert} {token : String} {entry : CertCacheEntry Cert}
    (h : c.entries.lookup token = some entry) (data : List UInt8) (now : Int) :
    ∃ entry', (c.processHttpReply botan token data now).1.entries.lookup token = some entry' ∧
      entry'.cert_chain = (c.validate botan now (received entry data)).cert_chain ∧
      entry'.state = (c.validate botan now (received entry data)).state := by
  unfold processHttpReply
  rw [h]
  refine ⟨_, AList.lookup_insert _, rfl, rfl⟩

/-- The entry after the data were read without an exception. -/
theorem validate_read (c : CertCache Cert) {entry : CertCacheEntry Cert} {chain : List Cert}
    (hbotan : botan.ThrowsOnEmpty) (hchain : chain ≠ [])
    (hread : readChain botan now data.length data entry.cert_chain = (chain, none)) :
    (c.validate botan now (received entry data)).cert_chain = chain ∧
      (c.validate botan now (received entry data)).state = .LOADED := by
  unfold validate received
  dsimp only
  rw [hread]
  have hfull : chain.isEmpty = false := by simpa using hchain
  cases hvalidate : botan.x509_path_validate chain c.trusted.trusted_certs_store now with
  | error e =>
    have hempty := (hbotan chain c.trusted.trusted_certs_store now).mp ⟨e, hvalidate⟩
    exact absurd hempty hchain
  | ok v =>
    dsimp only
    rw [hvalidate]
    simp [hfull]

/-- The entry after nothing could be read. -/
theorem validate_nothing (c : CertCache Cert) (now : Int) {entry : CertCacheEntry Cert}
    (hbotan : botan.ThrowsOnEmpty) (hchain : entry.cert_chain = [])
    (hfirst : firstCert botan data = none) :
    (c.validate botan now (received entry data)).cert_chain = [] ∧
      (c.validate botan now (received entry data)).state = .UNAVAILABLE := by
  unfold validate received
  dsimp only
  rw [hchain]
  by_cases hdata : data = []
  · -- the empty chain is refused
    rw [hdata]
    obtain ⟨e, he⟩ := (hbotan [] c.trusted.trusted_certs_store now).mpr rfl
    have hread : readChain botan now 0 [] [] = ([], none) := rfl
    simp only [List.length_nil, hread, he]
    exact ⟨rfl, rfl⟩
  · rw [readChain_none hdata hfirst]
    exact ⟨rfl, rfl⟩

/-- Nothing is parsed from data without a first certificate. -/
theorem certsOf_none (hfirst : firstCert botan data = none) : certsOf botan now data = [] := by
  unfold certsOf
  by_cases hdata : data = []
  · rw [hdata]
    rfl
  · rw [readChain_none hdata hfirst]

/-- What a reply leaves in an entry: exactly what is claimed if the chain was empty and the
    first certificate has not expired. -/
theorem content_iff {c : CertCache Cert} {token : String} {entry : CertCacheEntry Cert}
    (hbotan : botan.ThrowsOnEmpty) (h : c.entries.lookup token = some entry) :
    c.Content botan token data now ↔
      entry.cert_chain = [] ∧ ∀ cert ∈ firstCert botan data, now ≤ botan.not_after cert := by
  obtain ⟨entry', hentry', hchain', hstate'⟩ := lookup_processHttpReply botan h data now
  have hcontent : c.Content botan token data now ↔ entry'.cert_chain = certsOf botan now data ∧
      entry'.state = if (firstCert botan data).any (fun cert => now ≤ botan.not_after cert)
        then .LOADED else .UNAVAILABLE := by
    unfold Content
    rw [hentry']
    simp only [Option.mem_def, Option.some.injEq, forall_eq']
  rw [hcontent]
  by_cases hchain : entry.cert_chain = []
  · cases hfirst : firstCert botan data with
    | none =>
      have hvalidate := validate_nothing c now hbotan hchain hfirst
      rw [hchain', hstate', hvalidate.1, hvalidate.2, certsOf_none hfirst]
      simp [hchain]
    | some cert =>
      obtain ⟨certs, hread, hcerts, -⟩ := certsOf_some now hfirst
      rw [← hchain] at hread
      have hvalidate := validate_read c hbotan (List.cons_ne_nil cert certs) hread
      rw [hchain', hstate', hvalidate.1, hvalidate.2, hcerts]
      simp [hchain]
  · -- the certificates of an earlier reply stay in front
    have hread : readChain botan now data.length data entry.cert_chain = _ :=
      readChain_of_ne_nil data.length data hchain
    have hvalidate := validate_read c hbotan (List.append_ne_nil_of_left_ne_nil hchain _) hread
    have hpos : 0 < entry.cert_chain.length := List.length_pos_iff.mpr hchain
    have hne : entry'.cert_chain ≠ certsOf botan now data := by
      intro heq
      have hlength := congrArg List.length heq
      rw [hchain', hvalidate.1, List.length_append] at hlength
      cases hfirst : firstCert botan data with
      | none =>
        rw [certsOf_none hfirst, List.length_nil] at hlength
        omega
      | some cert =>
        obtain ⟨certs, -, hcerts, hall⟩ := certsOf_some now hfirst
        rw [hcerts, hall] at hlength
        omega
    simp [hchain, hne]

/-! ### Loaded entries -/

variable {entries : Entries Cert}

theorem filled_insert (h : Filled entries) (url : String) {entry : CertCacheEntry Cert}
    (hentry : entry.state = .LOADED → entry.cert_chain ≠ []) : Filled (entries.insert url entry) := by
  intro url' entry' hlookup hloaded
  by_cases hurl : url' = url
  · rw [hurl, AList.lookup_insert] at hlookup
    obtain rfl := Option.some.inj hlookup
    exact hentry hloaded
  · rw [AList.lookup_insert_ne hurl] at hlookup
    exact h url' entry' hlookup hloaded

/-- A renewed entry is loading. -/
theorem filled_renewed (h : Filled entries) (url : String) (entry : CertCacheEntry Cert) :
    Filled (entries.insert url entry.reset) := by
  apply filled_insert h
  intro hloaded
  cases hloaded

theorem filled_erase (h : Filled entries) (url : String) : Filled (entries.erase url) := by
  intro url' entry hlookup hloaded
  by_cases hurl : url' = url
  · rw [hurl, AList.lookup_erase] at hlookup
    cases hlookup
  · rw [AList.lookup_erase_ne hurl] at hlookup
    exact h url' entry hlookup hloaded

theorem filled_forEach {c : CertCache Cert} (h : Filled c.entries)
    (treat : String → CertCacheEntry Cert → Treatment) : Filled (c.forEach treat).1.entries := by
  intro url entry hlookup hloaded
  unfold forEach at hlookup
  rw [AList.lookup_sweep] at hlookup
  obtain ⟨before, hbefore, htreated⟩ := Option.bind_eq_some_iff.mp hlookup
  cases htreat : treat url before with
  | keep =>
    simp only [htreat, Option.some.injEq] at htreated
    rw [← htreated] at hloaded ⊢
    exact h url before hbefore hloaded
  | renew =>
    simp only [htreat, Option.some.injEq] at htreated
    rw [← htreated] at hloaded
    cases hloaded
  | erase =>
    simp only [htreat] at htreated
    cases htreated

theorem filled_clearLoop {c : CertCache Cert} (h : Filled c.entries) (ret : Nat)
    (args : List (Option String)) : Filled (c.clearLoop ret args).1.entries := by
  induction args generalizing c ret with
  | nil => exact h
  | cons arg args ih =>
    cases arg with
    | none => exact h
    | some url =>
      unfold clearLoop
      split_ifs
      · exact ih (filled_erase h url) (ret + 1)
      · exact ih h ret

variable (regex : Regex)

theorem filled_renewLoop {c : CertCache Cert} (h : Filled c.entries) (ret : Nat)
    (args : List (Option String)) : Filled (c.renewLoop regex ret args).1.entries := by
  induction args generalizing c ret with
  | nil => exact h
  | cons arg args ih =>
    cases arg with
    | none => exact h
    | some url =>
      unfold renewLoop
      dsimp only
      split
      · next entry hentry =>
        split_ifs
        · exact ih (filled_erase h url) ret
        · exact ih (filled_renewed h url entry) (ret + 1)
      · split_ifs
        · exact ih h ret
        · exact ih (filled_renewed h url {}) (ret + 1)

theorem filled_checkAndFetch {c : CertCache Cert} (h : Filled c.entries)
    (cert_url session_id : String) :
    Filled (c.checkAndFetch regex cert_url session_id).1.entries := by
  unfold checkAndFetch
  dsimp only
  split
  · split_ifs
    · exact h
    · exact filled_renewed h cert_url { defer_sessions := [session_id] }
  · split_ifs
    · exact filled_erase h cert_url
    · exact h
    · exact h
    · exact h

theorem filled_RenewCerts {c : CertCache Cert} (h : Filled c.entries) (args : UrlArgs) :
    Filled (c.RenewCerts regex args).1.entries := by
  unfold RenewCerts
  split_ifs
  · exact h
  · split
    · exact h
    · exact filled_forEach h _
    · exact filled_renewLoop regex h 0 _

theorem filled_ClearCerts {c : CertCache Cert} (h : Filled c.entries) (args : UrlArgs) :
    Filled (c.ClearCerts args).1.entries := by
  unfold ClearCerts
  split
  · exact h
  · intro url entry hlookup
    cases hlookup
  · exact filled_clearLoop h 0 _

/-- The state becomes `LOADED` only with a certificate in the chain. -/
theorem filled_validate (c : CertCache Cert) (now : Int) {entry : CertCacheEntry Cert}
    (h : entry.state = .LOADED → entry.cert_chain ≠ [])
    (hloaded : (c.validate botan now entry).state = .LOADED) :
    (c.validate botan now entry).cert_chain ≠ [] := by
  cases hread : readChain botan now entry.response_data.length entry.response_data
    entry.cert_chain with
  | mk chain e =>
    unfold validate at hloaded ⊢
    dsimp only at hloaded ⊢
    rw [hread] at hloaded ⊢
    cases e with
    | some e => cases hloaded
    | none =>
      dsimp only at hloaded ⊢
      split at hloaded
      · cases hloaded
      next v hvalidate =>
        show chain ≠ []
        intro hnil
        -- the entry was loaded before, so something is in the chain
        have hbefore : entry.state = .LOADED := by simpa [hnil] using hloaded
        have hchain := h hbefore
        rw [readChain_of_ne_nil _ _ hchain] at hread
        obtain ⟨rfl, -⟩ := Prod.mk.inj hread
        exact List.append_ne_nil_of_left_ne_nil hchain _ hnil

theorem filled_processHttpReply {c : CertCache Cert} (h : Filled c.entries) (token : String)
    (data : List UInt8) (now : Int) :
    Filled (c.processHttpReply botan token data now).1.entries := by
  unfold processHttpReply
  split
  · exact h
  · next entry hentry =>
    apply filled_insert h
    intro hloaded
    exact filled_validate c now (h token entry hentry) hloaded

end CertCache

namespace Fetching

open CertCache

variable {botan : BotanX509 Cert} {regex : Regex} [DecidableEq Cert] {s s' : Fetching Cert}

/-! ### All runs -/

theorem filled_next {l : CacheLabel} (h : Filled s.cache.entries)
    (hnext : s.next botan regex l = some s') : Filled s'.cache.entries := by
  cases l with
  | checkAndFetch cert_url session_id =>
    rw [← Option.some.inj hnext]
    have hfilled := filled_checkAndFetch regex h cert_url session_id
    unfold check
    dsimp only
    split_ifs
    · exact hfilled
    · exact hfilled
  | processHttpReply i data now =>
    obtain ⟨f, -, rfl⟩ := Option.map_eq_some_iff.mp hnext
    exact filled_processHttpReply h f.token data now
  | onTimer now =>
    rw [← Option.some.inj hnext]
    exact filled_forEach h _
  | ClearCerts args =>
    rw [← Option.some.inj hnext]
    exact filled_ClearCerts h args
  | RenewCerts args =>
    rw [← Option.some.inj hnext]
    exact filled_RenewCerts regex h args
  | reloadTrustedRepositories data =>
    rw [← Option.some.inj hnext]
    rcases data with _ | rows
    · exact h
    · exact h
  | reloadTrustedCertificates data =>
    rw [← Option.some.inj hnext]
    exact h

theorem filled_of_reachable (h : (system botan regex).Reachable s) : Filled s.cache.entries := by
  refine System.invariant_under (fun s => Filled s.cache.entries) ?_ ?_ h
  · intro s hinit url entry hlookup
    rw [hinit.1] at hlookup
    cases hlookup
  · intro s l s' hfilled _ hnext
    exact filled_next hfilled hnext

/-- In every state of every run a `LOADED` entry has a certificate, and a reply for an entry
    leaves what is claimed exactly if the chain of the entry is empty and the first
    certificate of the reply has not expired. -/
theorem content_iff_of_reachable (botan : BotanX509 Cert) (regex : Regex)
    (hbotan : botan.ThrowsOnEmpty) (s : Fetching Cert) (h : (system botan regex).Reachable s) :
    Filled s.cache.entries ∧
      ∀ (url : String) (entry : CertCacheEntry Cert) (data : List UInt8) (now : Int),
        s.cache.entries.lookup url = some entry →
        (s.cache.Content botan url data now ↔
          entry.cert_chain = [] ∧ ∀ cert ∈ firstCert botan data, now ≤ botan.not_after cert) := by
  refine ⟨filled_of_reachable h, ?_⟩
  intro url entry data now hentry
  exact content_iff hbotan hentry

theorem throwsOnEmpty_byteX509 : byteX509.ThrowsOnEmpty := by
  intro chain store now
  cases chain with
  | nil => exact ⟨fun _ => rfl, fun _ => ⟨_, rfl⟩⟩
  | cons cert chain =>
    constructor
    · intro ⟨e, he⟩
      cases he
    · intro hnil
      cases hnil

/-- The first reply to a fetch. -/
theorem content_iff_of_reachable_first_reply :
    ∃ s, (system byteX509 plainRegex).Reachable s ∧
      s.fetches = [⟨"identity", "https://cr/a", "https://cr/a"⟩] ∧
      s.cache.Content byteX509 "https://cr/a" [65, 66] 0 := by
  obtain ⟨s, hreach, hstate⟩ := (system byteX509 plainRegex).exists_reachableUnder_of_any
    (fun _ _ => True)
    (fun s => decide (s.fetches = [⟨"identity", "https://cr/a", "https://cr/a"⟩]) &&
      (s.cache.entries.lookup "https://cr/a").any fun entry => entry.cert_chain.isEmpty)
    emptyCache
    [.reloadTrustedRepositories (some [⟨some 1, some "https://cr/a", some true⟩]),
      .checkAndFetch "https://cr/a" "leg1"]
    ⟨rfl, rfl, rfl⟩ (by decide)
  rw [Bool.and_eq_true, decide_eq_true_eq, Option.any_eq_true] at hstate
  obtain ⟨hfetches, entry, hentry, hempty⟩ := hstate
  have hiff := (content_iff_of_reachable byteX509 plainRegex throwsOnEmpty_byteX509 s hreach).2
    "https://cr/a" entry [65, 66] 0 hentry
  refine ⟨s, hreach, hfetches, hiff.mpr ⟨by simpa using hempty, ?_⟩⟩
  intro cert _
  exact Int.le_refl 0

/-- The certificate is renewed while it is fetched: the second reply appends its certificate
    to that of the first. -/
theorem not_content_second_reply :
    ¬ ∀ (botan : BotanX509 UInt8) (regex : Regex), botan.ThrowsOnEmpty →
      ∀ s, (system botan regex).Reachable s → ∀ f ∈ s.fetches, ∀ (data : List UInt8) (now : Int),
        (s.cache.entries.lookup f.token).isSome = true → s.cache.Content botan f.token data now := by
  intro hall
  obtain ⟨s, hreach, hstate⟩ := (system byteX509 plainRegex).exists_reachableUnder_of_any
    (fun _ _ => True)
    (fun s => decide (s.fetches = [⟨"identity", "https://cr/a", "https://cr/a"⟩]) &&
      (s.cache.entries.lookup "https://cr/a").any fun entry => entry.cert_chain == [65])
    emptyCache
    [.reloadTrustedRepositories (some [⟨some 1, some "https://cr/a", some true⟩]),
      .checkAndFetch "https://cr/a" "leg1", .RenewCerts (some []),
      .processHttpReply 0 [65] 0]
    ⟨rfl, rfl, rfl⟩ (by decide)
  rw [Bool.and_eq_true, decide_eq_true_eq, Option.any_eq_true] at hstate
  obtain ⟨hfetches, entry, hentry, hchain⟩ := hstate
  have hcontent := hall byteX509 plainRegex throwsOnEmpty_byteX509 s hreach
    ⟨"identity", "https://cr/a", "https://cr/a"⟩ (by rw [hfetches]; exact List.mem_singleton_self _)
    [65] 0 (by rw [hentry]; rfl)
  have hempty := ((content_iff throwsOnEmpty_byteX509 hentry).mp hcontent).1
  rw [beq_iff_eq] at hchain
  rw [hchain] at hempty
  cases hempty

end Fetching

end Yeti.Certs
