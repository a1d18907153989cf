import Mathlib.Data.List.Basic

/-! # Trusted certificates

    Model of `CertCache::reloadTrustedCertificates`.  Every call lists the
    certificates of its data in `trusted_certs` and adds them to
    `trusted_certs_store`, the store against which chains are validated.  The list
    is cleared first, the store is not.

    Botan is a parameter: `load` is the constructor of `X509_Certificate` on a data
    source, with the data it leaves unread, or the `Botan::Exception` it throws.
-/

namespace Yeti.Certs

/-! ### Reading certificates -/

/-- The certificate reader of Botan. -/
structure Botan (Cert : Type) where
  load : List UInt8 → Option Cert × List UInt8
  /-- An attempt reads one byte at least. -/
  consumes : ∀ data, data ≠ [] → (load data).2.length < data.length

variable {Cert : Type} (botan : Botan Cert)

/-- `while(!in.end_of_data())`: the certificates read, and the data left. -/
def certLoop : Nat → List UInt8 → List Cert × List UInt8
  | 0, data => ([], data)
  | fuel + 1, data =>
    if data.isEmpty then ([], data)
    else
      match botan.load data with
      | (some cert, data) => (cert :: (certLoop fuel data).1, (certLoop fuel data).2)
      -- the exception is reported and the loop goes on
      | (none, data) => certLoop fuel data

/-- All certificates of one entry. -/
def readCerts (cert_data : List UInt8) : List Cert := (certLoop botan cert_data.length cert_data).1

/-- The loop reads all data. -/
theorem certLoop_end {fuel : Nat} {data : List UInt8} (h : data.length ≤ fuel) :
    (certLoop botan fuel data).2 = [] := by
  induction fuel generalizing data with
  | zero => exact List.length_eq_zero_iff.mp (Nat.le_zero.mp h)
  | succ fuel ih =>
    unfold certLoop
    split_ifs with hempty
    · exact List.isEmpty_iff.mp hempty
    · have hlt := botan.consumes data (by simpa using hempty)
      split
      · next cert rest heq =>
        rw [heq] at hlt
        exact ih (by simp only at hlt; omega)
      · next rest heq =>
        rw [heq] at hlt
        exact ih (by simp only at hlt; omega)

/-! ### Reloading -/

/-- `TrustedCertEntry`. -/
structure TrustedCertEntry (Cert : Type) where
  id : Int
  name : String
  certs : List Cert
  deriving DecidableEq, Repr

/-- A row of the data; a field is `none` when `AmArg` has another type for it. -/
structure CertRow where
  id : Option Int
  name : Option String
  certificate : Option (List UInt8)
  deriving DecidableEq, Repr

/-- `trusted_certs` and `trusted_certs_store`. -/
structure Trusted (Cert : Type) where
  trusted_certs : List (TrustedCertEntry Cert) := []
  trusted_certs_store : List Cert := []
  deriving DecidableEq, Repr

variable [DecidableEq Cert]

/-- `Certificate_Store_In_Memory::add_certificate`, which adds a certificate once. -/
def Trusted.add_certificate (s : Trusted Cert) (cert : Cert) : Trusted Cert :=
  { s with trusted_certs_store := s.trusted_certs_store.insert cert }

/-- The loop over the rows.  The flag tells whether it ran to its end: an `AmArg`
    of the wrong type throws. -/
def reloadRows (s : Trusted Cert) : List CertRow → Trusted Cert × Bool
  | [] => (s, true)
  | a :: rows =>
    match a.id, a.name with
    | some id, some name =>
      match a.certificate with
      -- the entry is appended before the certificate is asked for
      | none => ({ s with trusted_certs := s.trusted_certs ++ [⟨id, name, []⟩] }, false)
      | some cert_data =>
        let certs := readCerts botan cert_data
        reloadRows
          (certs.foldl Trusted.add_certificate
            { s with trusted_certs := s.trusted_certs ++ [⟨id, name, certs⟩] })
          rows
    | _, _ => (s, false)

/-- `CertCache::reloadTrustedCertificates`; `data` is `none` when it is no array. -/
def reloadTrustedCertificates (s : Trusted Cert) (data : Option (List CertRow)) :
    Trusted Cert × Bool :=
  let s := { s with trusted_certs := [] }
  match data with
  | none => (s, true)
  | some rows => reloadRows botan s rows

/-- The certificates that `trusted_certs` lists. -/
def Trusted.listed (s : Trusted Cert) : List Cert := s.trusted_certs.flatMap (·.certs)

/-- The certificates parsed from `data`. -/
def parsed (data : Option (List CertRow)) : List Cert :=
  (reloadTrustedCertificates botan {} data).1.listed

/-- A sequence of reloads from the start of the process. -/
def reloads (calls : List (Option (List CertRow))) : Trusted Cert :=
  calls.foldl (fun s data => (reloadTrustedCertificates botan s data).1) {}

/-! ### One call -/

variable {botan}

theorem foldl_add_certificate (certs : List Cert) (s : Trusted Cert) :
    (certs.foldl Trusted.add_certificate s).trusted_certs = s.trusted_certs ∧
      ∀ c, c ∈ (certs.foldl Trusted.add_certificate s).trusted_certs_store ↔
        c ∈ s.trusted_certs_store ∨ c ∈ certs := by
  induction certs generalizing s with
  | nil => simp
  | cons cert certs ih =>
    obtain ⟨hlist, hstore⟩ := ih (s.add_certificate cert)
    refine ⟨hlist, fun c => ?_⟩
    rw [List.foldl_cons, hstore c, List.mem_cons]
    simp only [Trusted.add_certificate, List.mem_insert_iff]
    tauto

variable (botan) in
/-- What the rows add does not depend on what was there before. -/
theorem reloadRows_adds (rows : List CertRow) :
    ∃ es : List (TrustedCertEntry Cert), ∀ s,
      (reloadRows botan s rows).1.trusted_certs = s.trusted_certs ++ es ∧
      ∀ c, c ∈ (reloadRows botan s rows).1.trusted_certs_store ↔
        c ∈ s.trusted_certs_store ∨ c ∈ es.flatMap (·.certs) := by
  induction rows with
  | nil => exact ⟨[], fun s => by simp [reloadRows]⟩
  | cons a rows ih =>
    -- a row with a field of the wrong type throws and ends the loop; what came before it stays
    obtain ⟨es, hes⟩ := ih
    cases hid : a.id with
    | none => exact ⟨[], fun s => by simp [reloadRows, hid]⟩
    | some id =>
      cases hname : a.name with
      | none => exact ⟨[], fun s => by simp [reloadRows, hid, hname]⟩
      | some name =>
        cases hcert : a.certificate with
        | none => exact ⟨[⟨id, name, []⟩], fun s => by simp [reloadRows, hid, hname, hcert]⟩
        | some cert_data =>
          refine ⟨⟨id, name, readCerts botan cert_data⟩ :: es, fun s => ?_⟩
          obtain ⟨hlist, hstore⟩ := foldl_add_certificate (readCerts botan cert_data)
            { s with trusted_certs :=
                s.trusted_certs ++ [⟨id, name, readCerts botan cert_data⟩] }
          simp only [reloadRows, hid, hname, hcert]
          refine ⟨?_, fun c => ?_⟩
          · rw [(hes _).1, hlist, List.append_assoc, List.singleton_append]
          · rw [(hes _).2 c, hstore c, List.flatMap_cons, List.mem_append]
            tauto

/-- A call lists what it has parsed, and adds it to the store. -/
theorem reloadTrustedCertificates_spec (s : Trusted Cert) (data : Option (List CertRow)) :
    (reloadTrustedCertificates botan s data).1.listed = parsed botan data ∧
      ∀ c, c ∈ (reloadTrustedCertificates botan s data).1.trusted_certs_store ↔
        c ∈ s.trusted_certs_store ∨ c ∈ parsed botan data := by
  cases data with
  | none => simp [reloadTrustedCertificates, parsed, Trusted.listed]
  | some rows =>
    obtain ⟨es, hes⟩ := reloadRows_adds botan rows
    have hparsed : parsed botan (some rows) = es.flatMap (·.certs) := by
      simp [parsed, Trusted.listed, reloadTrustedCertificates, (hes _).1]
    refine ⟨?_, fun c => ?_⟩
    · simp [Trusted.listed, reloadTrustedCertificates, (hes _).1, hparsed]
    · rw [hparsed]
      exact (hes { s with trusted_certs := [] }).2 c

/-! ### All calls -/

/-- The store keeps everything that was ever parsed. -/
theorem mem_store_reloads (calls : List (Option (List CertRow))) (c : Cert) :
    c ∈ (reloads botan calls).trusted_certs_store ↔ ∃ data ∈ calls, c ∈ parsed botan data := by
  -- the loop is followed from any store, since every call starts from that of the last one
  suffices hfold : ∀ s : Trusted Cert,
      c ∈ (calls.foldl (fun s data => (reloadTrustedCertificates botan s data).1)
        s).trusted_certs_store ↔
      c ∈ s.trusted_certs_store ∨ ∃ data ∈ calls, c ∈ parsed botan data by
    simpa [reloads] using hfold {}
  induction calls with
  | nil => simp
  | cons data calls ih =>
    intro s
    rw [List.foldl_cons, ih, (reloadTrustedCertificates_spec s data).2 c, List.exists_mem_cons_iff,
      or_assoc]

/-- After the last call the store holds exactly what that call has parsed and listed. -/
def RevokesOthers (botan : Botan Cert) (calls : List (Option (List CertRow)))
    (last : Option (List CertRow)) : Prop :=
  (reloads botan (calls ++ [last])).listed = parsed botan last ∧
    ∀ c, c ∈ (reloads botan (calls ++ [last])).trusted_certs_store ↔ c ∈ parsed botan last

/-- **Revocation**: the store is that of the last call exactly when the earlier
    calls had no certificate that the last one lacks. -/
theorem revokesOthers_iff (botan : Botan Cert) (calls : List (Option (List CertRow)))
    (last : Option (List CertRow)) :
    RevokesOthers botan calls last ↔
      ∀ data ∈ calls, ∀ c ∈ parsed botan data, c ∈ parsed botan last := by
  have hlisted : (reloads botan (calls ++ [last])).listed = parsed botan last := by
    rw [reloads, List.foldl_append]
    exact (reloadTrustedCertificates_spec _ last).1
  have hstore : ∀ c, c ∈ (reloads botan (calls ++ [last])).trusted_certs_store ↔
      (∃ data ∈ calls, c ∈ parsed botan data) ∨ c ∈ parsed botan last := by
    intro c
    rw [mem_store_reloads]
    simp [or_and_right, exists_or]
  constructor
  · rintro ⟨-, heq⟩ data hdata c hc
    exact (heq c).mp ((hstore c).mpr (.inl ⟨data, hdata, hc⟩))
  · intro hall
    refine ⟨hlisted, fun c => ?_⟩
    rw [hstore c]
    constructor
    · rintro (⟨data, hdata, hc⟩ | hc)
      · exact hall data hdata c hc
      · exact hc
    · exact .inr

/-- A reader of certificates that are one byte long. -/
def byteBotan : Botan UInt8 where
  load data := (data.head?, data.tail)
  consumes data h := by
    have := List.length_pos_iff.mpr h
    simp only [List.length_tail]
    omega

/-- A certificate authority that is gone from the second reload stays trusted. -/
theorem not_revokesOthers_removed :
    ¬ ∀ (botan : Botan UInt8) (calls : List (Option (List CertRow)))
      (last : Option (List CertRow)), RevokesOthers botan calls last := by
  intro hall
  have hstore := ((hall byteBotan
    [some [⟨some 1, some "old", some [7]⟩, ⟨some 2, some "new", some [8]⟩]]
    (some [⟨some 2, some "new", some [8]⟩])).2 7).mp (by decide)
  revert hstore
  decide

end Yeti.Certs
