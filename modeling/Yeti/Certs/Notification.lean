import Yeti.Framework.Lists
import Yeti.Framework.System
import Yeti.Certs.Cache

/-! # Every waiting session is notified

    The system around the cache: the requests that are with the HTTP client, and the
    sessions that were told to wait.  A session waits from the call of
    `checkAndFetch` that returned `false` until a response for the URL is posted to
    it.  Nobody waits for a URL without a request for it, as long as every call that
    returns `false` has registered its session, and no entry is erased while
    sessions wait for it.
-/

open LTS

namespace Yeti.Certs

/-! ### The system -/

/-- The cache with its surroundings. -/
structure Fetching (Cert : Type) where
  cache : CertCache Cert
  /-- Requests without a reply. -/
  fetches : List HttpGetEvent := []
  /-- Sessions told to wait, with their URL. -/
  waiting : List (String × String) := []

/-- Labels of the certificate cache. -/
inductive CacheLabel where
  | checkAndFetch (cert_url session_id : String)
  /-- The reply to the `i`-th request. -/
  | processHttpReply (i : Nat) (data : List UInt8) (now : Int)
  | onTimer (now : Int)
  | ClearCerts (args : CertCache.UrlArgs)
  | RenewCerts (args : CertCache.UrlArgs)
  | reloadTrustedRepositories (data : Option (List CertCache.RepositoryRow))
  | reloadTrustedCertificates (data : Option (List CertRow))
  deriving DecidableEq, Repr

namespace Fetching

variable {Cert : Type} (botan : BotanX509 Cert) (regex : Regex)

/-- An operation on the cache that posts requests. -/
def operate (s : Fetching Cert) (r : CertCache Cert × List HttpGetEvent) : Fetching Cert :=
  { s with cache := r.1, fetches := s.fetches ++ r.2 }

/-- A call of `checkAndFetch`. -/
def check (s : Fetching Cert) (cert_url session_id : String) : Fetching Cert :=
  let r := s.cache.checkAndFetch regex cert_url session_id
  let s := s.operate (r.1, r.2.1)
  if r.2.2 then s else { s with waiting := (cert_url, session_id) :: s.waiting }

/-- The reply to `f`, which leaves the requests `rest`. -/
def reply (s : Fetching Cert) (f : HttpGetEvent) (rest : List HttpGetEvent)
    (data : List UInt8) (now : Int) : Fetching Cert :=
  let r := s.cache.processHttpReply botan f.token data now
  { cache := r.1
    fetches := rest
    -- whoever gets a response for the URL stops waiting for it
    waiting := s.waiting.filter fun w =>
      !r.2.any fun response => response.cert_url == w.1 && response.session_id == w.2 }

def next [DecidableEq Cert] (s : Fetching Cert) : CacheLabel → Option (Fetching Cert)
  | .checkAndFetch cert_url session_id => some (s.check regex cert_url session_id)
  | .processHttpReply i data now =>
    s.fetches[i]?.map fun f => s.reply botan f (s.fetches.eraseIdx i) data now
  | .onTimer now => some (s.operate (s.cache.onTimer regex now))
  | .ClearCerts args => some (s.operate ((s.cache.ClearCerts args).1, []))
  | .RenewCerts args =>
    let r := s.cache.RenewCerts regex args
    some (s.operate (r.1, r.2.1))
  | .reloadTrustedRepositories data =>
    some (s.operate (s.cache.reloadTrustedRepositories regex data, []))
  | .reloadTrustedCertificates data =>
    let trusted := (reloadTrustedCertificates botan.toBotan s.cache.trusted data).1
    some (s.operate ({ s.cache with trusted := trusted }, []))

/-- The cache starts empty, with any configuration. -/
def system [DecidableEq Cert] : System (Fetching Cert) CacheLabel where
  init s := s.cache.entries = ∅ ∧ s.fetches = [] ∧ s.waiting = []
  next := next botan regex

/-! ### Statements -/

/-- Whoever waits for a URL has a request for it under way. -/
def Notified (s : Fetching Cert) : Prop :=
  ∀ w ∈ s.waiting, ∃ f ∈ s.fetches, f.token = w.1

instance (s : Fetching Cert) : Decidable s.Notified :=
  inferInstanceAs (Decidable (∀ w ∈ s.waiting, ∃ f ∈ s.fetches, f.token = w.1))

/-- The arguments read before one that is no string. -/
def urlArgs : List (Option String) → List String
  | some url :: args => url :: urlArgs args
  | _ => []

/-- The URLs that an RPC method is about; without arguments these are all. -/
def named (s : Fetching Cert) : CertCache.UrlArgs → List String
  | none => []
  | some [] => s.cache.entries.keys
  | some args => urlArgs args

/-- No session is registered for the URL. -/
def NoneDeferred (entries : Entries Cert) (url : String) : Prop :=
  ∀ entry ∈ entries.lookup url, entry.defer_sessions = []

instance (entries : Entries Cert) (url : String) : Decidable (NoneDeferred entries url) :=
  decidable_of_iff ((entries.lookup url).all (·.defer_sessions = []) = true)
    (by unfold NoneDeferred; cases entries.lookup url <;> simp)

/-- A session that finds a request under way is registered already, and no entry is
    erased with sessions registered. -/
def Registers (s : Fetching Cert) : CacheLabel → Prop
  | .checkAndFetch cert_url session_id =>
    s.cache.isTrustedRepository regex cert_url = true →
      (s.cache.entries.lookup cert_url).all
        (fun entry => entry.state ≠ .LOADING || session_id ∈ entry.defer_sessions) = true
  | .ClearCerts args => ∀ url ∈ s.named args, NoneDeferred s.cache.entries url
  | .RenewCerts args =>
    s.cache.http_destination.isEmpty = false → ∀ url ∈ s.named args,
      s.cache.isTrustedRepository regex url = false → NoneDeferred s.cache.entries url
  | _ => True

instance (s : Fetching Cert) : (l : CacheLabel) → Decidable (s.Registers regex l)
  | .checkAndFetch _ _ => inferInstanceAs (Decidable (_ → _))
  | .ClearCerts _ => inferInstanceAs (Decidable (∀ _ ∈ _, _))
  | .RenewCerts _ => inferInstanceAs (Decidable (_ → ∀ _ ∈ _, _))
  | .processHttpReply _ _ _ => .isTrue trivial
  | .onTimer _ => .isTrue trivial
  | .reloadTrustedRepositories _ => .isTrue trivial
  | .reloadTrustedCertificates _ => .isTrue trivial

/-! ### Operations that keep the sessions -/

/-- Registered sessions stay registered, new entries have none, and an entry with
    sessions does not stop loading. -/
structure KeepsSessions (before after : Entries Cert) : Prop where
  kept : ∀ url entry, before.lookup url = some entry → entry.defer_sessions ≠ [] →
    ∃ entry', after.lookup url = some entry' ∧ entry'.defer_sessions = entry.defer_sessions
  origin : ∀ url entry', after.lookup url = some entry' → entry'.defer_sessions ≠ [] →
    ∃ entry, before.lookup url = some entry ∧ entry.defer_sessions = entry'.defer_sessions ∧
      (entry.state = .LOADING → entry'.state = .LOADING)

/-- What an operation may do to each URL: leave it alone, renew its entry, or anything
    at all when no session is registered. -/
theorem KeepsSessions.of_lookup {before after : Entries Cert}
    (h : ∀ url, after.lookup url = before.lookup url ∨
      (∃ entry, before.lookup url = some entry ∧ after.lookup url = some entry.reset) ∨
      (NoneDeferred before url ∧ NoneDeferred after url)) :
    KeepsSessions before after := by
  constructor
  · intro url entry hentry hne
    rcases h url with heq | ⟨e, he, hreset⟩ | ⟨hnone, -⟩
    · exact ⟨entry, heq.trans hentry, rfl⟩
    · have hsame : e = entry := Option.some.inj (he.symm.trans hentry)
      exact ⟨e.reset, hreset, by rw [← hsame]; rfl⟩
    · exact absurd (hnone entry hentry) hne
  · intro url entry' hentry' hne
    rcases h url with heq | ⟨e, he, hreset⟩ | ⟨-, hnone⟩
    · exact ⟨entry', heq.symm.trans hentry', rfl, id⟩
    · have hsame : e.reset = entry' := Option.some.inj (hreset.symm.trans hentry')
      exact ⟨e, he, by rw [← hsame]; rfl, fun _ => by rw [← hsame]; rfl⟩
    · exact absurd (hnone entry' hentry') hne

theorem KeepsSessions.refl (entries : Entries Cert) : KeepsSessions entries entries :=
  .of_lookup fun _ => .inl rfl

theorem KeepsSessions.trans {e₁ e₂ e₃ : Entries Cert} (h₁ : KeepsSessions e₁ e₂)
    (h₂ : KeepsSessions e₂ e₃) : KeepsSessions e₁ e₃ := by
  constructor
  · intro url entry hentry hne
    obtain ⟨b, hb, hbs⟩ := h₁.kept url entry hentry hne
    obtain ⟨c, hc, hcs⟩ := h₂.kept url b hb (by rwa [hbs])
    exact ⟨c, hc, hcs.trans hbs⟩
  · intro url entry hentry hne
    obtain ⟨b, hb, hbs, hload₂⟩ := h₂.origin url entry hentry hne
    obtain ⟨a, ha, has, hload₁⟩ := h₁.origin url b hb (by rwa [hbs])
    exact ⟨a, ha, has.trans hbs, fun hl => hload₂ (hload₁ hl)⟩

/-- A URL without sessions gets none. -/
theorem KeepsSessions.noneDeferred {before after : Entries Cert} (h : KeepsSessions before after)
    {url : String} (hnone : NoneDeferred before url) : NoneDeferred after url := by
  intro entry' hentry'
  by_contra hne
  obtain ⟨entry, hentry, hsame, -⟩ := h.origin url entry' hentry' hne
  exact hne (hsame ▸ hnone entry hentry)

theorem noneDeferred_of_lookup_none {entries : Entries Cert} {url : String}
    (h : entries.lookup url = none) : NoneDeferred entries url := by
  intro entry hentry
  rw [h] at hentry
  contradiction

theorem keeps_erase {entries : Entries Cert} {url : String} (h : NoneDeferred entries url) :
    KeepsSessions entries (entries.erase url) := by
  refine .of_lookup fun u => ?_
  by_cases hu : u = url
  · subst hu
    exact .inr (.inr ⟨h, noneDeferred_of_lookup_none (AList.lookup_erase u entries)⟩)
  · exact .inl (AList.lookup_erase_ne hu)

theorem keeps_renew {entries : Entries Cert} {url : String} {entry : CertCacheEntry Cert}
    (h : entries.lookup url = some entry) :
    KeepsSessions entries (entries.insert url entry.reset) := by
  refine .of_lookup fun u => ?_
  by_cases hu : u = url
  · subst hu
    exact .inr (.inl ⟨entry, h, AList.lookup_insert entries⟩)
  · exact .inl (AList.lookup_insert_ne hu)

/-- An entry made by `RenewCerts` has no sessions. -/
theorem keeps_create {entries : Entries Cert} {url : String} (h : entries.lookup url = none)
    {entry : CertCacheEntry Cert} (hentry : entry.defer_sessions = []) :
    KeepsSessions entries (entries.insert url entry) := by
  refine .of_lookup fun u => ?_
  by_cases hu : u = url
  · subst hu
    refine .inr (.inr ⟨noneDeferred_of_lookup_none h, ?_⟩)
    intro e he
    rw [AList.lookup_insert] at he
    rw [← Option.some.inj he]
    exact hentry
  · exact .inl (AList.lookup_insert_ne hu)

/-- A pass over all entries keeps the sessions if it erases only entries without. -/
theorem keeps_forEach (s : CertCache Cert)
    (treat : String → CertCacheEntry Cert → CertCache.Treatment)
    (h : ∀ url entry, s.entries.lookup url = some entry → treat url entry = .erase →
      entry.defer_sessions = []) :
    KeepsSessions s.entries (s.forEach treat).1.entries := by
  refine .of_lookup fun url => ?_
  -- the pass is seen through the lookup of one URL, whatever the order of the entries
  have hlookup : (s.forEach treat).1.entries.lookup url = (s.entries.lookup url).bind _ :=
    AList.lookup_sweep _ s.entries url
  rcases hentry : s.entries.lookup url with _ | entry
  · rw [hlookup, hentry]
    exact .inl rfl
  · rw [hlookup, hentry, Option.bind_some]
    rcases htreat : treat url entry with _ | _ | _
    · exact .inl rfl
    · exact .inr (.inl ⟨entry, rfl, rfl⟩)
    · refine .inr (.inr ⟨?_, ?_⟩)
      · intro e he
        have hsame : entry = e := Option.some.inj (hentry.symm.trans he)
        rw [← hsame]
        exact h url entry hentry htreat
      · refine noneDeferred_of_lookup_none ?_
        rw [hlookup, hentry, Option.bind_some, htreat]

theorem keeps_clearLoop (s : CertCache Cert) (ret : Nat) (args : List (Option String))
    (h : ∀ url ∈ urlArgs args, NoneDeferred s.entries url) :
    KeepsSessions s.entries (s.clearLoop ret args).1.entries := by
  induction args generalizing s ret with
  | nil => exact .refl _
  | cons arg args ih =>
    rcases arg with _ | url
    · exact .refl _
    · have hurl := h url (by simp [urlArgs])
      -- an argument that is no string ends the loop, and what follows it is not named
      have hargs : ∀ u ∈ urlArgs args, NoneDeferred s.entries u :=
        fun u hu => h u (by simp [urlArgs, hu])
      rw [CertCache.clearLoop]
      by_cases hsome : (s.entries.lookup url).isSome
      · rw [if_pos hsome]
        have hstep := keeps_erase hurl
        have hrest := ih { s with entries := s.entries.erase url } (ret + 1)
          fun u hu => hstep.noneDeferred (hargs u hu)
        exact hstep.trans hrest
      · rw [if_neg hsome]
        exact ih s ret hargs

theorem keeps_ClearCerts (s : Fetching Cert) (args : CertCache.UrlArgs)
    (h : ∀ url ∈ s.named args, NoneDeferred s.cache.entries url) :
    KeepsSessions s.cache.entries (s.cache.ClearCerts args).1.entries := by
  rcases args with _ | (_ | ⟨arg, args⟩)
  · exact .refl _
  · -- all entries go at once
    refine .of_lookup fun url => .inr (.inr ⟨?_, ?_⟩)
    · by_cases hmem : url ∈ s.cache.entries
      · exact h url hmem
      · exact noneDeferred_of_lookup_none (AList.lookup_eq_none.mpr hmem)
    · exact noneDeferred_of_lookup_none (AList.lookup_empty url)
  · exact keeps_clearLoop s.cache 0 (arg :: args) h

theorem keeps_renewLoop (s : CertCache Cert) (ret : Nat) (args : List (Option String))
    (h : ∀ url ∈ urlArgs args, s.isTrustedRepository regex url = false →
      NoneDeferred s.entries url) :
    KeepsSessions s.entries (s.renewLoop regex ret args).1.entries := by
  induction args generalizing s ret with
  | nil => exact .refl _
  | cons arg args ih =>
    rcases arg with _ | url
    · exact .refl _
    · have hurl := h url (by simp [urlArgs])
      -- one argument, and then the others from where it leads
      have hrest : ∀ entries ret', KeepsSessions s.entries entries →
          KeepsSessions s.entries
            (CertCache.renewLoop regex { s with entries := entries } ret' args).1.entries := by
        intro entries ret' hstep
        refine hstep.trans (ih { s with entries := entries } ret' fun u hu hnot => ?_)
        exact hstep.noneDeferred (h u (by simp [urlArgs, hu]) hnot)
      rw [CertCache.renewLoop]
      rcases hentry : s.entries.lookup url with _ | entry
      · by_cases htrusted : s.isTrustedRepository regex url
        · simp only [htrusted, Bool.not_true, Bool.false_eq_true, if_false]
          exact hrest _ _ (keeps_create hentry rfl)
        · simp only [htrusted, Bool.not_false, if_true]
          exact hrest _ _ (.refl _)
      · by_cases htrusted : s.isTrustedRepository regex url
        · simp only [htrusted, Bool.not_true, Bool.false_eq_true, if_false]
          exact hrest _ _ (keeps_renew hentry)
        · simp only [htrusted, Bool.not_false, if_true]
          exact hrest _ _ (keeps_erase (hurl (by simpa using htrusted)))

theorem keeps_RenewCerts (s : Fetching Cert) (args : CertCache.UrlArgs)
    (h : s.cache.http_destination.isEmpty = false → ∀ url ∈ s.named args,
      s.cache.isTrustedRepository regex url = false → NoneDeferred s.cache.entries url) :
    KeepsSessions s.cache.entries (s.cache.RenewCerts regex args).1.entries := by
  unfold CertCache.RenewCerts
  by_cases hdest : s.cache.http_destination.isEmpty
  · rw [if_pos hdest]
    exact .refl _
  · rw [if_neg hdest]
    have h := h (by simpa using hdest)
    rcases args with _ | (_ | ⟨arg, args⟩)
    · exact .refl _
    · refine keeps_forEach s.cache _ fun url entry hentry htreat => ?_
      have hmem : url ∈ s.cache.entries :=
        AList.lookup_isSome.mp (by rw [hentry]; rfl)
      -- the pass erases untrusted entries only
      have hnot : s.cache.isTrustedRepository regex url = false := by
        by_contra htrusted
        simp [htrusted] at htreat
      exact h url hmem hnot entry hentry
    · exact keeps_renewLoop regex s.cache 0 (arg :: args) h

/-! ### The invariant -/

/-- Sessions that wait are registered, and an entry with sessions is being loaded. -/
structure Inv (s : Fetching Cert) : Prop where
  registered : ∀ w ∈ s.waiting, ∃ entry,
    s.cache.entries.lookup w.1 = some entry ∧ w.2 ∈ entry.defer_sessions
  loading : ∀ url entry, s.cache.entries.lookup url = some entry → entry.defer_sessions ≠ [] →
    entry.state = .LOADING ∧ ∃ f ∈ s.fetches, f.token = url

variable {botan regex} {s : Fetching Cert}

theorem Inv.notified (h : s.Inv) : s.Notified := by
  intro w hw
  obtain ⟨entry, hentry, hmem⟩ := h.registered w hw
  exact (h.loading w.1 entry hentry (List.ne_nil_of_mem hmem)).2

/-- An operation that keeps the sessions keeps the invariant. -/
theorem inv_operate (h : s.Inv) {r : CertCache Cert × List HttpGetEvent}
    (hkeeps : KeepsSessions s.cache.entries r.1.entries) : (s.operate r).Inv := by
  constructor
  · intro w hw
    obtain ⟨entry, hentry, hmem⟩ := h.registered w hw
    -- `kept` follows a waiting session forwards, `origin` traces an entry back to its request
    obtain ⟨entry', hentry', hsame⟩ := hkeeps.kept w.1 entry hentry (List.ne_nil_of_mem hmem)
    exact ⟨entry', hentry', hsame ▸ hmem⟩
  · intro url entry' hentry' hne
    obtain ⟨entry, hentry, hsame, hload⟩ := hkeeps.origin url entry' hentry' hne
    obtain ⟨hloading, f, hf, htoken⟩ := h.loading url entry hentry (hsame ▸ hne)
    exact ⟨hload hloading, f, List.mem_append_left _ hf, htoken⟩

/-- Entries that are not being loaded have no sessions. -/
theorem Inv.noneDeferred (h : s.Inv) {url : String} {entry : CertCacheEntry Cert}
    (hentry : s.cache.entries.lookup url = some entry) (hstate : entry.state ≠ .LOADING) :
    entry.defer_sessions = [] := by
  by_contra hne
  exact hstate (h.loading url entry hentry hne).1

theorem inv_onTimer (h : s.Inv) (now : Int) : (s.operate (s.cache.onTimer regex now)).Inv := by
  refine inv_operate h (keeps_forEach s.cache _ fun url entry hentry htreat => ?_)
  by_cases hstate : entry.state = .LOADING
  · simp [hstate] at htreat
  · exact h.noneDeferred hentry hstate

/-! ### Calls of `checkAndFetch` -/

/-- A call that returns `false` has made the entry, or has found it being loaded. -/
theorem checkAndFetch_false {c : CertCache Cert} {cert_url session_id : String}
    (h : (c.checkAndFetch regex cert_url session_id).2.2 = false) :
    c.isTrustedRepository regex cert_url = true ∧
      ((c.entries.lookup cert_url = none ∧
          c.checkAndFetch regex cert_url session_id =
            ({ c with entries := c.entries.insert cert_url { defer_sessions := [session_id] } },
              [c.fetch cert_url], false)) ∨
        ∃ entry, c.entries.lookup cert_url = some entry ∧ entry.state = .LOADING ∧
          c.checkAndFetch regex cert_url session_id = (c, [], false)) := by
  unfold CertCache.checkAndFetch at h ⊢
  by_cases htrusted : c.isTrustedRepository regex cert_url
  · refine ⟨htrusted, ?_⟩
    rcases hentry : c.entries.lookup cert_url with _ | entry
    · -- a new entry: the session is registered and a request is posted
      left
      simp [htrusted, CertCacheEntry.reset]
    · -- an entry that is being loaded: nothing changes, and the session is not added
      right
      simp only [hentry, htrusted] at h ⊢
      by_cases hstate : entry.state = .LOADING
      · exact ⟨entry, rfl, hstate, by simp [hstate]⟩
      · simp [hstate] at h
  · -- untrusted repositories are never waited for
    exfalso
    rcases hentry : c.entries.lookup cert_url with _ | entry
    · simp [hentry, htrusted] at h
    · simp only [hentry, htrusted] at h
      by_cases hstate : entry.state = .LOADING
      · simp [hstate] at h
      · simp [hstate] at h

/-- A call that returns `true` erases at most an entry that is not being loaded. -/
theorem keeps_checkAndFetch (h : s.Inv) {cert_url session_id : String}
    (hret : (s.cache.checkAndFetch regex cert_url session_id).2.2 = true) :
    KeepsSessions s.cache.entries
      (s.cache.checkAndFetch regex cert_url session_id).1.entries := by
  unfold CertCache.checkAndFetch at hret ⊢
  rcases hentry : s.cache.entries.lookup cert_url with _ | entry
  · by_cases htrusted : s.cache.isTrustedRepository regex cert_url
    · -- a new trusted entry returns `false`
      simp [hentry, htrusted] at hret
    · simp only [htrusted, Bool.not_false, if_true]
      exact .refl _
  · by_cases htrusted : s.cache.isTrustedRepository regex cert_url
    · simp only [htrusted, Bool.not_true, Bool.false_eq_true, if_false]
      split
      · exact .refl _
      · exact .refl _
    · simp only [htrusted, Bool.not_false, if_true]
      by_cases hstate : entry.state = .LOADING
      · rw [if_neg (by simp [hstate])]
        exact .refl _
      · rw [if_pos hstate]
        refine keeps_erase ?_
        intro e he
        have hsame : entry = e := Option.some.inj (hentry.symm.trans he)
        exact hsame ▸ h.noneDeferred hentry hstate

theorem inv_check (h : s.Inv) {cert_url session_id : String}
    (hok : s.Registers regex (.checkAndFetch cert_url session_id)) :
    (s.check regex cert_url session_id).Inv := by
  unfold check
  by_cases hret : (s.cache.checkAndFetch regex cert_url session_id).2.2
  · simp only [hret, if_true]
    exact inv_operate h (keeps_checkAndFetch h hret)
  · obtain ⟨htrusted, hcase⟩ := checkAndFetch_false (by simpa using hret)
    simp only [hret, Bool.false_eq_true, if_false]
    rcases hcase with ⟨hnone, heq⟩ | ⟨entry, hentry, hstate, heq⟩
    · rw [heq]
      constructor
      · intro w hw
        rcases List.mem_cons.mp hw with rfl | hw
        · exact ⟨_, AList.lookup_insert _, List.mem_singleton.mpr rfl⟩
        · obtain ⟨e, he, hmem⟩ := h.registered w hw
          -- nobody waited for this URL, which had no entry
          have hne : w.1 ≠ cert_url := by
            intro heq
            rw [heq, hnone] at he
            contradiction
          exact ⟨e, (AList.lookup_insert_ne hne).trans he, hmem⟩
      · intro url e he hne
        by_cases hurl : url = cert_url
        · subst hurl
          have hsame := (AList.lookup_insert _).symm.trans he
          rw [← Option.some.inj hsame]
          exact ⟨rfl, s.cache.fetch url, by simp [operate], rfl⟩
        · obtain ⟨hl, f, hf, htoken⟩ :=
            h.loading url e ((AList.lookup_insert_ne hurl).symm.trans he) hne
          exact ⟨hl, f, List.mem_append_left _ hf, htoken⟩
    · rw [heq]
      -- only the condition on the call tells that the session is registered here
      have hmem : session_id ∈ entry.defer_sessions := by
        have := hok htrusted
        simpa [hentry, hstate] using this
      have hsame := inv_operate h (r := (s.cache, [])) (.refl _)
      refine ⟨?_, hsame.loading⟩
      intro w hw
      rcases List.mem_cons.mp hw with rfl | hw
      · exact ⟨entry, hentry, hmem⟩
      · exact hsame.registered w hw

/-! ### Replies -/

theorem validate_defer_sessions (c : CertCache Cert) (now : Int) (entry : CertCacheEntry Cert) :
    (c.validate botan now entry).defer_sessions = entry.defer_sessions := by
  unfold CertCache.validate
  simp only
  split
  · rfl
  · split <;> rfl

variable (botan) in
/-- The reply for an entry notifies all its sessions. -/
theorem processHttpReply_some {c : CertCache Cert} {token : String}
    {entry : CertCacheEntry Cert} (h : c.entries.lookup token = some entry)
    (data : List UInt8) (now : Int) :
    ∃ entry' result, entry'.defer_sessions = [] ∧
      c.processHttpReply botan token data now =
        ({ c with entries := c.entries.insert token entry' },
          entry.defer_sessions.map fun session_id => ⟨session_id, result, token⟩) := by
  unfold CertCache.processHttpReply
  rw [h]
  simp only [validate_defer_sessions]
  exact ⟨_, _, rfl, rfl⟩

/-- Requests for other URLs stay. -/
theorem mem_eraseIdx_of_token {fetches : List HttpGetEvent} {i : Nat} {f g : HttpGetEvent}
    (hf : fetches[i]? = some f) (hg : g ∈ fetches) (hne : g.token ≠ f.token) :
    g ∈ fetches.eraseIdx i := by
  rcases List.eq_or_mem_eraseIdx hf hg with rfl | hmem
  · exact absurd rfl hne
  · exact hmem

theorem inv_reply (h : s.Inv) {i : Nat} {f : HttpGetEvent} (hf : s.fetches[i]? = some f)
    (data : List UInt8) (now : Int) :
    (s.reply botan f (s.fetches.eraseIdx i) data now).Inv := by
  -- for other URLs than that of the reply nothing changes
  have hother : ∀ url entry, s.cache.entries.lookup url = some entry →
      entry.defer_sessions ≠ [] → url ≠ f.token →
      entry.state = .LOADING ∧ ∃ g ∈ s.fetches.eraseIdx i, g.token = url := by
    intro url entry hentry hne hurl
    obtain ⟨hl, g, hg, htoken⟩ := h.loading url entry hentry hne
    exact ⟨hl, g, mem_eraseIdx_of_token hf hg (htoken ▸ hurl), htoken⟩
  unfold reply
  rcases hentry : s.cache.entries.lookup f.token with _ | entry
  · have heq : s.cache.processHttpReply botan f.token data now = (s.cache, []) := by
      unfold CertCache.processHttpReply
      rw [hentry]
    rw [heq]
    constructor
    · intro w hw
      exact h.registered w (List.mem_filter.mp hw).1
    · intro url e he hne
      refine hother url e he hne ?_
      rintro rfl
      rw [hentry] at he
      contradiction
  · obtain ⟨entry', result, hnone, heq⟩ :=
      processHttpReply_some botan hentry data now
    rw [heq]
    constructor
    · intro w hw
      obtain ⟨hw, hnot⟩ := List.mem_filter.mp hw
      obtain ⟨e, he, hmem⟩ := h.registered w hw
      -- all who waited for this URL were registered, so they have got their response
      have hne : w.1 ≠ f.token := by
        intro htoken
        rw [htoken, hentry] at he
        rw [← Option.some.inj he] at hmem
        have hnot : ∀ x ∈ entry.defer_sessions, x ≠ w.2 := by simpa [htoken] using hnot
        exact hnot w.2 hmem rfl
      exact ⟨e, (AList.lookup_insert_ne hne).trans he, hmem⟩
    · intro url e he hne
      by_cases hurl : url = f.token
      · subst hurl
        -- the sessions of the entry are cleared with the responses
        have hsame := (AList.lookup_insert _).symm.trans he
        rw [← Option.some.inj hsame] at hne
        exact absurd hnone hne
      · exact hother url e ((AList.lookup_insert_ne hurl).symm.trans he) hne hurl

/-! ### All runs -/

variable [DecidableEq Cert]

theorem inv_next {s' : Fetching Cert} {l : CacheLabel} (h : s.Inv) (hok : s.Registers regex l)
    (hnext : s.next botan regex l = some s') : s'.Inv := by
  cases l with
  | checkAndFetch cert_url session_id =>
    rw [← Option.some.inj hnext]
    exact inv_check h hok
  | processHttpReply i data now =>
    obtain ⟨f, hf, rfl⟩ := Option.map_eq_some_iff.mp hnext
    exact inv_reply h hf data now
  | onTimer now =>
    rw [← Option.some.inj hnext]
    exact inv_onTimer h now
  | ClearCerts args =>
    rw [← Option.some.inj hnext]
    exact inv_operate h (keeps_ClearCerts s args hok)
  | RenewCerts args =>
    rw [← Option.some.inj hnext]
    exact inv_operate h (keeps_RenewCerts regex s args hok)
  | reloadTrustedRepositories data =>
    rw [← Option.some.inj hnext]
    refine inv_operate h ?_
    rcases data with _ | rows
    · exact .refl _
    · exact .refl _
  | reloadTrustedCertificates data =>
    rw [← Option.some.inj hnext]
    exact inv_operate h (.refl _)

/-- Patterns without special characters. -/
def plainRegex : Regex where
  compiles _ := true
  regex_match url pattern := url == pattern

/-- Certificates of one byte, valid when they are in the store. -/
def byteX509 : BotanX509 UInt8 where
  toBotan := byteBotan
  loadException _ := ⟨"Invalid data", 0, 1⟩
  not_after _ := 0
  x509_path_validate chain store _ :=
    if chain.isEmpty then .error ⟨"x509_path_validate called with no subjects", 0, 1⟩
    else .ok ⟨chain.all (· ∈ store), "", ""⟩

/-- An empty cache. -/
def emptyCache : Fetching UInt8 where
  cache := {
    http_destination := "identity"
    cert_cache_ttl := 86400
    cert_cache_failed_ttl := 86400
    cert_cache_failed_verify_ttl := 86400 }

end Fetching

end Yeti.Certs
