import Yeti.Certs.Notification

/-! # What happens to the entries of the cache

    A new entry comes from `checkAndFetch`, a loaded one from the reply to a request.
    Whatever else is done to the cache renews entries, erases them, or leaves them
    alone.  What other modules say about all entries is kept by every such step for
    this one reason.
-/

open LTS

namespace Yeti.Certs

variable {Cert : Type}

/-- Each entry is left alone, erased or reset; an entry that is reset was there before
    or has no sessions. -/
def Renewing (before after : Entries Cert) : Prop :=
  ∀ url, after.lookup url = before.lookup url ∨ after.lookup url = none ∨
    ∃ entry : CertCacheEntry Cert, after.lookup url = some entry.reset ∧
      (before.lookup url = some entry ∨ entry.defer_sessions = [])

namespace Renewing

theorem refl (entries : Entries Cert) : Renewing entries entries := fun _ => .inl rfl

theorem trans {e₁ e₂ e₃ : Entries Cert} (h₁ : Renewing e₁ e₂) (h₂ : Renewing e₂ e₃) :
    Renewing e₁ e₃ := by
  intro url
  rcases h₂ url with hsame | hnone | ⟨entry, hentry, hbefore | hsessions⟩
  · rw [hsame]
    exact h₁ url
  · exact .inr (.inl hnone)
  · rcases h₁ url with hsame | hnone | ⟨entry', hentry', hbefore'⟩
    · exact .inr (.inr ⟨entry, hentry, .inl (hsame.symm.trans hbefore)⟩)
    · rw [hnone] at hbefore
      contradiction
    · -- an entry that is reset twice is reset once
      have hreset : entry'.reset = entry := Option.some.inj (hentry'.symm.trans hbefore)
      rw [← hreset] at hentry
      exact .inr (.inr ⟨entry', hentry, hbefore'⟩)
  · exact .inr (.inr ⟨entry, hentry, .inr hsessions⟩)

theorem erase (entries : Entries Cert) (url : String) : Renewing entries (entries.erase url) := by
  intro u
  by_cases hu : u = url
  · subst hu
    exact .inr (.inl (AList.lookup_erase u entries))
  · exact .inl (AList.lookup_erase_ne hu)

theorem reset {entries : Entries Cert} {url : String} {entry : CertCacheEntry Cert}
    (h : entries.lookup url = some entry ∨ entry.defer_sessions = []) :
    Renewing entries (entries.insert url entry.reset) := by
  intro u
  by_cases hu : u = url
  · subst hu
    exact .inr (.inr ⟨entry, AList.lookup_insert entries, h⟩)
  · exact .inl (AList.lookup_insert_ne hu)

theorem forEach (c : CertCache Cert)
    (treat : String → CertCacheEntry Cert → CertCache.Treatment) :
    Renewing c.entries (c.forEach treat).1.entries := by
  intro url
  have hlookup : (c.forEach treat).1.entries.lookup url = (c.entries.lookup url).bind _ :=
    AList.lookup_sweep _ c.entries url
  rcases hentry : c.entries.lookup url with _ | entry
  · rw [hlookup, hentry]
    exact .inl rfl
  · rw [hlookup, hentry, Option.bind_some]
    rcases treat url entry with _ | _ | _
    · exact .inl rfl
    · exact .inr (.inr ⟨entry, rfl, .inl rfl⟩)
    · exact .inr (.inl rfl)

theorem clearLoop (c : CertCache Cert) (ret : Nat) (args : List (Option String)) :
    Renewing c.entries (c.clearLoop ret args).1.entries := by
  induction args generalizing c ret with
  | nil => exact refl _
  | cons arg args ih =>
    rcases arg with _ | url
    · exact refl _
    · rw [CertCache.clearLoop]
      by_cases hsome : (c.entries.lookup url).isSome
      · rw [if_pos hsome]
        exact (erase c.entries url).trans (ih { c with entries := c.entries.erase url } (ret + 1))
      · rw [if_neg hsome]
        exact ih c ret

theorem ClearCerts (c : CertCache Cert) (args : CertCache.UrlArgs) :
    Renewing c.entries (c.ClearCerts args).1.entries := by
  rcases args with _ | (_ | ⟨arg, args⟩)
  · exact refl _
  · exact fun url => .inr (.inl (AList.lookup_empty url))
  · exact clearLoop c 0 (arg :: args)

theorem renewLoop (regex : Regex) (c : CertCache Cert) (ret : Nat)
    (args : List (Option String)) :
    Renewing c.entries (c.renewLoop regex ret args).1.entries := by
  induction args generalizing c ret with
  | nil => exact refl _
  | cons arg args ih =>
    rcases arg with _ | url
    · exact refl _
    · -- one argument, and then the others from where it leads
      have hrest : ∀ entries ret', Renewing c.entries entries → Renewing c.entries
          (CertCache.renewLoop regex { c with entries := entries } ret' args).1.entries :=
        fun entries ret' hstep => hstep.trans (ih { c with entries := entries } ret')
      rw [CertCache.renewLoop]
      rcases hentry : c.entries.lookup url with _ | entry
      · by_cases htrusted : c.isTrustedRepository regex url
        · simp only [htrusted, Bool.not_true, Bool.false_eq_true, if_false]
          exact hrest _ _ (reset (.inr rfl))
        · simp only [htrusted, Bool.not_false, if_true]
          exact hrest _ _ (refl _)
      · by_cases htrusted : c.isTrustedRepository regex url
        · simp only [htrusted, Bool.not_true, Bool.false_eq_true, if_false]
          exact hrest _ _ (reset (.inl hentry))
        · simp only [htrusted, Bool.not_false, if_true]
          exact hrest _ _ (erase c.entries url)

theorem RenewCerts (regex : Regex) (c : CertCache Cert) (args : CertCache.UrlArgs) :
    Renewing c.entries (c.RenewCerts regex args).1.entries := by
  unfold CertCache.RenewCerts
  by_cases hdest : c.http_destination.isEmpty
  · rw [if_pos hdest]
    exact refl _
  · rw [if_neg hdest]
    rcases args with _ | (_ | ⟨arg, args⟩)
    · exact refl _
    · exact forEach c _
    · exact renewLoop regex c 0 (arg :: args)

/-- `checkAndFetch` makes no entry unless the repository is trusted and the entry missing. -/
theorem checkAndFetch (regex : Regex) (c : CertCache Cert) (cert_url session_id : String)
    (h : c.isTrustedRepository regex cert_url = true → c.entries.lookup cert_url ≠ none) :
    Renewing c.entries (c.checkAndFetch regex cert_url session_id).1.entries := by
  unfold CertCache.checkAndFetch
  rcases hentry : c.entries.lookup cert_url with _ | entry
  · have huntrusted : c.isTrustedRepository regex cert_url = false := by
      by_contra htrusted
      exact h (by simpa using htrusted) hentry
    simp only [huntrusted, Bool.not_false, if_true]
    exact refl _
  · by_cases htrusted : c.isTrustedRepository regex cert_url
    · simp only [htrusted, Bool.not_true, Bool.false_eq_true, if_false]
      split
      · exact refl _
      · exact refl _
    · simp only [htrusted, Bool.not_false, if_true]
      split
      · exact erase c.entries cert_url
      · exact refl _

/-- A step that is neither a call of a leg nor a reply. -/
theorem next [DecidableEq Cert] {botan : BotanX509 Cert} {regex : Regex}
    {s s' : Fetching Cert} {l : CacheLabel}
    (hcall : ∀ cert_url session_id, l ≠ .checkAndFetch cert_url session_id)
    (hreply : ∀ i data now, l ≠ .processHttpReply i data now)
    (h : s.next botan regex l = some s') : Renewing s.cache.entries s'.cache.entries := by
  cases l with
  | checkAndFetch cert_url session_id => exact absurd rfl (hcall cert_url session_id)
  | processHttpReply i data now => exact absurd rfl (hreply i data now)
  | onTimer now =>
    rw [← Option.some.inj h]
    exact forEach s.cache _
  | ClearCerts args =>
    rw [← Option.some.inj h]
    exact ClearCerts s.cache args
  | RenewCerts args =>
    rw [← Option.some.inj h]
    exact RenewCerts regex s.cache args
  | reloadTrustedRepositories data =>
    rw [← Option.some.inj h]
    rcases data with _ | rows
    · exact refl _
    · exact refl _
  | reloadTrustedCertificates data =>
    rw [← Option.some.inj h]
    exact refl _

end Renewing

end Yeti.Certs
