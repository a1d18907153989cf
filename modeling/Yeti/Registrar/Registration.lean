import Mathlib.Data.List.Perm.Subperm
import Yeti.Registrar.Bindings

/-! # What a registration does

    What an invocation of `register.lua` returns and what it changes, from any state that
    is reached.  The list returned always has the bindings that exist, and each path
    changes the hash it should change, apart from a bind with negative `expires`.
-/

open LTS

namespace Yeti.Registrar

/-! ### What is claimed -/

/-- A contact of the id has a binding. -/
def Live (db : Db) (id : AuthId) (c : String) : Prop :=
  (db.hashes (contactKey id c)).isSome = true

/-- The contacts with a binding are in the set. -/
def Consistent (db : Db) : Prop := ∀ id c, Live db id c → c ∈ db.sets (authKey id)

/-- No id has more than ten bindings. -/
def AtMostTen (db : Db) : Prop :=
  ∀ (id : AuthId) (cs : List String), cs.Nodup → (∀ c ∈ cs, Live db id c) → cs.length ≤ 10

/-- The bindings that are returned are those that exist. -/
def ReplyExact (id : AuthId) (db : Db) : Reply → Prop
  | .bindings l => (l.map Entry.contact).Nodup ∧
      ∀ entry, entry ∈ l ↔ entryOf db id entry.contact = some entry
  | .nil => ∀ c, ¬ Live db id c
  | .text _ => True
  | .luaError => True

/-- What an invocation is to change: an unbind removes one hash or all of the id, a bind that
    is not refused sets one. -/
def Effect (id : AuthId) (argv : Argv) (db : Db) (reply : Reply) (db' : Db) : Prop :=
  match argv.expires, argv.contact with
  | .number expires, some contact =>
    if expires = 0 then db'.hashes = Function.update db.hashes (contactKey id contact) none
    else if reply = .text tooManyContacts then db'.hashes = db.hashes
    else db'.hashes =
      Function.update db.hashes (contactKey id contact) (some (newHash argv expires))
  | .number expires, none =>
    if expires = 0 then
      (∀ c, db'.hashes (contactKey id c) = none) ∧
        ∀ key, (∀ c, key ≠ contactKey id c) → db'.hashes key = db.hashes key
    else db'.hashes = db.hashes
  | _, _ => db'.hashes = db.hashes

/-- A bind with negative `expires` that is not refused for the limit. -/
def NegativeBind (db : Db) (id : AuthId) (argv : Argv) : Prop :=
  ∃ expires contact, argv.expires = .number expires ∧ argv.contact = some contact ∧
    expires < 0 ∧ (liveContacts db id).length < 10

/-! ### Replies -/

variable {id : AuthId} {db : Db}

theorem contact_of_entryOf {c : String} {entry : Entry} (h : entryOf db id c = some entry) :
    entry.contact = c := by
  obtain ⟨hash, -, rfl⟩ := Option.map_eq_some_iff.mp h
  rfl

theorem map_contact_filterMap (l : List String) :
    (l.filterMap (entryOf db id)).map Entry.contact =
      l.filter fun c => (db.hashes (contactKey id c)).isSome := by
  induction l with
  | nil => rfl
  | cons c l ih =>
    cases hentry : entryOf db id c with
    | none =>
      have hnone : ¬ (db.hashes (contactKey id c)).isSome = true := by
        have hmap := Option.map_eq_none_iff.mp hentry
        simp [hmap]
      rw [List.filterMap_cons_none hentry, List.filter_cons, if_neg hnone, ih]
    | some entry =>
      have hsome : (db.hashes (contactKey id c)).isSome = true := by
        obtain ⟨hash, hhash, -⟩ := Option.map_eq_some_iff.mp hentry
        simp [hhash]
      rw [List.filterMap_cons_some hentry, List.filter_cons, if_pos hsome, List.map_cons, ih,
        contact_of_entryOf hentry]

/-- What `get_bindings` returns is exact for the store it leaves. -/
theorem replyExact_get_bindings (h : Inv db) (id : AuthId) :
    ReplyExact id (get_bindings id db).2 (.bindings (get_bindings id db).1) := by
  rw [get_bindings_eq h]
  constructor
  · rw [map_contact_filterMap]
    exact List.Nodup.filter _ (h.nodup id)
  · intro entry
    show entry ∈ (db.sets (authKey id)).filterMap (entryOf db id) ↔
      entryOf db id entry.contact = some entry
    rw [List.mem_filterMap]
    constructor
    · intro hmem
      obtain ⟨c, -, hentry⟩ := hmem
      rw [contact_of_entryOf hentry]
      exact hentry
    · intro hentry
      obtain ⟨hash, hhash, -⟩ := Option.map_eq_some_iff.mp hentry
      exact ⟨entry.contact, h.member id _ (by rw [hhash]; rfl), hentry⟩

theorem not_live_unbindAll (h : Inv db) (id : AuthId) (c : String) :
    (unbindAll id db).hashes (contactKey id c) = none := by
  rw [hashes_unbindAll]
  split_ifs with hmem
  · rfl
  · cases hhash : db.hashes (contactKey id c) with
    | none => rfl
    | some hash =>
      have hlive := h.member id c (by rw [hhash]; rfl)
      exact absurd (List.mem_map_of_mem hlive) hmem

theorem replyExact_register (h : Inv db) (id : AuthId) (argv : Argv) :
    ReplyExact id (register id argv db).2 (register id argv db).1 := by
  unfold register
  cases argv.expires with
  | missing => exact replyExact_get_bindings h id
  | notNumber => trivial
  | number expires =>
    cases argv.contact with
    | none =>
      dsimp only
      split_ifs
      · intro c hlive
        unfold Live at hlive
        rw [not_live_unbindAll h id c] at hlive
        cases hlive
      · trivial
    | some contact =>
      dsimp only
      split_ifs with hzero hlimit
      · exact replyExact_get_bindings (inv_unbind h id contact) id
      · trivial
      · rw [cleanup_eq h] at hlimit ⊢
        exact replyExact_get_bindings
          (inv_addBinding (inv_cleaned h id) id argv contact expires (by omega)) id

/-! ### Changes -/

theorem hashes_get_bindings (h : Inv db) (id : AuthId) :
    (get_bindings id db).2.hashes = db.hashes := by
  rw [get_bindings_eq h]
  rfl

/-- A bind, refused or not. -/
theorem register_bind (h : Inv db) (id : AuthId) {argv : Argv} {contact : String} {expires : Int}
    (hcontact : argv.contact = some contact) (hexpires : argv.expires = .number expires)
    (hzero : expires ≠ 0) :
    if (liveContacts db id).length < 10 then
      (∃ l, (register id argv db).1 = .bindings l) ∧
        (register id argv db).2.hashes = Function.update db.hashes (contactKey id contact)
          (if expires ≤ 0 then none else some (newHash argv expires))
    else (register id argv db).1 = .text tooManyContacts ∧
      (register id argv db).2.hashes = db.hashes := by
  have hset : ((db.cleaned id).sets (authKey id)) = liveContacts db id := sets_setContacts_self ..
  unfold register
  simp only [hexpires, hcontact, if_neg hzero, cleanup_eq h, hset]
  by_cases hroom : (liveContacts db id).length < 10
  · rw [if_pos hroom]
    have hlimit : ¬ 10 ≤ (liveContacts db id).length := by omega
    simp only [if_neg hlimit]
    have hadd := inv_addBinding (inv_cleaned h id) id argv contact expires (by rw [hset]; exact hroom)
    refine ⟨⟨_, rfl⟩, ?_⟩
    rw [hashes_get_bindings hadd, addBinding_eq]
    rfl
  · rw [if_neg hroom, if_pos (by omega)]
    exact ⟨rfl, rfl⟩

/-- Every other invocation changes what it should change. -/
theorem effect_of_not_bind (h : Inv db) (id : AuthId) {argv : Argv}
    (hbind : ∀ expires contact, argv.expires = .number expires → argv.contact = some contact →
      expires = 0) :
    Effect id argv db (register id argv db).1 (register id argv db).2 := by
  unfold Effect register
  cases hexpires : argv.expires with
  | missing => exact hashes_get_bindings h id
  | notNumber => rfl
  | number expires =>
    cases hcontact : argv.contact with
    | none =>
      dsimp only
      split_ifs
      · refine ⟨not_live_unbindAll h id, ?_⟩
        intro key hkey
        rw [hashes_unbindAll, if_neg]
        intro hmem
        obtain ⟨c, -, hc⟩ := List.mem_map.mp hmem
        exact hkey c hc.symm
      · rfl
    | some contact =>
      have hzero := hbind expires contact hexpires hcontact
      dsimp only
      rw [if_pos hzero, if_pos hzero]
      exact hashes_get_bindings (inv_unbind h id contact) id

theorem newHash_ne_none (hashes : String → Option Hash) (key : String) (hash : Hash) :
    Function.update hashes key none ≠ Function.update hashes key (some hash) := by
  intro heq
  have hkey := congrFun heq key
  rw [Function.update_self, Function.update_self] at hkey
  cases hkey

theorem effect_register_iff (h : Inv db) (id : AuthId) (argv : Argv) :
    Effect id argv db (register id argv db).1 (register id argv db).2 ↔
      ¬ NegativeBind db id argv := by
  by_cases hbind : ∃ expires contact, argv.expires = .number expires ∧
      argv.contact = some contact ∧ expires ≠ 0
  · obtain ⟨expires, contact, hexpires, hcontact, hzero⟩ := hbind
    have hnegative : NegativeBind db id argv ↔ expires < 0 ∧ (liveContacts db id).length < 10 := by
      unfold NegativeBind
      simp [hexpires, hcontact]
    have hregister := register_bind h id hcontact hexpires hzero
    rw [hnegative]
    unfold Effect
    simp only [hexpires, hcontact, if_neg hzero]
    by_cases hroom : (liveContacts db id).length < 10
    · rw [if_pos hroom] at hregister
      obtain ⟨⟨l, hreply⟩, hhashes⟩ := hregister
      rw [hreply, hhashes, if_neg (by simp)]
      by_cases hneg : expires < 0
      · rw [if_pos (by omega)]
        exact iff_of_false (newHash_ne_none _ _ _) (fun hnot => hnot ⟨hneg, hroom⟩)
      · rw [if_neg (by omega)]
        exact iff_of_true rfl (fun hboth => hneg hboth.1)
    · rw [if_neg hroom] at hregister
      rw [hregister.1, hregister.2, if_pos rfl]
      exact iff_of_true rfl (fun hboth => hroom hboth.2)
  · have hnot : ∀ expires contact, argv.expires = .number expires →
        argv.contact = some contact → expires = 0 := by
      intro expires contact hexpires hcontact
      by_contra hzero
      exact hbind ⟨expires, contact, hexpires, hcontact, hzero⟩
    refine iff_of_true (effect_of_not_bind h id hnot) ?_
    rintro ⟨expires, contact, hexpires, hcontact, hneg, -⟩
    have hzero := hnot expires contact hexpires hcontact
    omega

/-! ### The store -/

theorem atMostTen_of_inv (h : Inv db) : AtMostTen db := by
  intro id cs hnodup hlive
  have hsub : cs ⊆ db.sets (authKey id) := fun c hc => h.member id c (hlive c hc)
  exact Nat.le_trans (List.subperm_of_subset hnodup hsub).length_le (h.bounded id)

/-- **Registrar store.** In every reachable state the bindings are those of the members of
    the set, at most ten; an invocation returns those that exist after it; and it changes
    what it should change exactly if it is not a bind with negative `expires`. -/
theorem store_of_reachable (db : Db) (h : store.Reachable db) :
    Consistent db ∧ AtMostTen db ∧ ∀ (id : AuthId) (argv : Argv),
      ReplyExact id (register id argv db).2 (register id argv db).1 ∧
        (Effect id argv db (register id argv db).1 (register id argv db).2 ↔
          ¬ NegativeBind db id argv) := by
  have hinv := inv_of_reachable h
  refine ⟨hinv.member, atMostTen_of_inv hinv, ?_⟩
  intro id argv
  exact ⟨replyExact_register hinv id argv, effect_register_iff hinv id argv⟩

/-! ### Renewing a binding -/

/-- The contact is bound anew: the bindings are returned, and its hash has the data and the
    time of the request. -/
def Renews (db : Db) (id : AuthId) (argv : Argv) (contact : String) (expires : Int) : Prop :=
  (∃ l, (register id argv db).1 = .bindings l) ∧
    (register id argv db).2.hashes (contactKey id contact) = some (newHash argv expires)

/-- Contacts with a binding are bound anew, and only others are refused for the limit. -/
def RenewalOk (db : Db) (id : AuthId) (argv : Argv) (contact : String) (expires : Int) : Prop :=
  (Live db id contact → Renews db id argv contact expires) ∧
    ((register id argv db).1 = .text tooManyContacts → ¬ Live db id contact)

theorem renews_iff (h : Inv db) {argv : Argv} {contact : String} {expires : Int}
    (hcontact : argv.contact = some contact) (hexpires : argv.expires = .number expires)
    (hpos : 0 < expires) :
    (Renews db id argv contact expires ↔ (liveContacts db id).length < 10) ∧
      ((register id argv db).1 = .text tooManyContacts ↔ ¬ (liveContacts db id).length < 10) := by
  have hregister := register_bind h id hcontact hexpires (by omega)
  unfold Renews
  by_cases hroom : (liveContacts db id).length < 10
  · rw [if_pos hroom] at hregister
    obtain ⟨⟨l, hreply⟩, hhashes⟩ := hregister
    rw [if_neg (by omega)] at hhashes
    constructor
    · refine iff_of_true ⟨⟨l, hreply⟩, ?_⟩ hroom
      rw [hhashes, Function.update_self]
    · rw [hreply]
      simp [hroom]
  · rw [if_neg hroom] at hregister
    constructor
    · refine iff_of_false ?_ hroom
      rintro ⟨⟨l, hreply⟩, -⟩
      rw [hregister.1] at hreply
      cases hreply
    · exact iff_of_true hregister.1 hroom

/-- **Renewal.** Renewing works as claimed exactly if the contact has no binding yet or the
    id has fewer than ten of them. -/
theorem renewalOk_iff_of_reachable (db : Db) (h : store.Reachable db) (id : AuthId) (argv : Argv)
    (contact : String) (expires : Int) (hcontact : argv.contact = some contact)
    (hexpires : argv.expires = .number expires) (hpos : 0 < expires) :
    RenewalOk db id argv contact expires ↔
      (Live db id contact → (liveContacts db id).length < 10) := by
  obtain ⟨hrenews, hrefused⟩ := @renews_iff id db (inv_of_reachable h) argv contact expires
    hcontact hexpires hpos
  unfold RenewalOk
  rw [hrenews, hrefused]
  constructor
  · intro hok
    exact hok.1
  · intro hlimit
    refine ⟨hlimit, ?_⟩
    intro hfull hlive
    exact hfull (hlimit hlive)

/-! ### Runs -/

namespace StoreExample

def empty : Db where
  sets _ := []
  hashes _ := none

/-- A bind of the contact with the number `n`. -/
def bindArgs (n : Nat) (expires : Int) : Argv :=
  { expires := .number expires, contact := some (toString n), node_id := "1",
    interface_id := "0", user_agent := some "phone", path := some "" }

/-- Contacts bound one after the other. -/
def binds (k : Nat) : List StoreLabel := (List.range k).map fun n => .register 7 (bindArgs n 60)

end StoreExample

open StoreExample

/-- One contact is bound. -/
theorem store_of_reachable_one_contact :
    ∃ db, store.Reachable db ∧ Consistent db ∧
      Effect 7 (bindArgs 0 60) db (register 7 (bindArgs 0 60) db).1
        (register 7 (bindArgs 0 60) db).2 := by
  obtain ⟨db, hreach, hstate⟩ := store.exists_reachableUnder_of_any (fun _ _ => True)
    (fun db => liveContacts db 7 == ["0"]) empty (binds 1) ⟨fun _ => rfl, fun _ => rfl⟩ (by decide)
  obtain ⟨hconsistent, -, hinvoke⟩ := store_of_reachable db hreach
  refine ⟨db, hreach, hconsistent, (hinvoke 7 (bindArgs 0 60)).2.mpr ?_⟩
  rintro ⟨expires, contact, hexpires, -, hneg, -⟩
  cases hexpires
  omega

/-- A bound contact is bound again with a negative time and loses its binding. -/
theorem not_effect_negative_expires :
    ¬ ∀ db, store.Reachable db → ∀ (id : AuthId) (argv : Argv),
      Effect id argv db (register id argv db).1 (register id argv db).2 := by
  intro hall
  obtain ⟨db, hreach, hstate⟩ := store.exists_reachableUnder_of_any (fun _ _ => True)
    (fun db => liveContacts db 7 == ["0"]) empty (binds 1) ⟨fun _ => rfl, fun _ => rfl⟩ (by decide)
  have heffect := hall db hreach 7 (bindArgs 0 (-1))
  rw [effect_register_iff (inv_of_reachable hreach)] at heffect
  apply heffect
  refine ⟨-1, "0", rfl, rfl, by decide, ?_⟩
  rw [beq_iff_eq.mp hstate]
  decide

/-- With nine other bindings a contact is bound anew. -/
theorem renewalOk_iff_of_reachable_nine :
    ∃ db, store.Reachable db ∧ Live db 7 "0" ∧ RenewalOk db 7 (bindArgs 0 60) "0" 60 := by
  obtain ⟨db, hreach, hstate⟩ := store.exists_reachableUnder_of_any (fun _ _ => True)
    (fun db => (liveContacts db 7).length == 9 && (db.hashes (contactKey 7 "0")).isSome) empty
    (binds 9) ⟨fun _ => rfl, fun _ => rfl⟩ (by decide)
  rw [Bool.and_eq_true, beq_iff_eq] at hstate
  refine ⟨db, hreach, hstate.2, ?_⟩
  refine (renewalOk_iff_of_reachable db hreach 7 (bindArgs 0 60) "0" 60 rfl rfl (by decide)).mpr ?_
  intro _
  omega

/-- With ten bindings none of them can be renewed. -/
theorem not_renewalOk_ten :
    ¬ ∀ db, store.Reachable db → ∀ (id : AuthId) (argv : Argv) (contact : String) (expires : Int),
      argv.contact = some contact → argv.expires = .number expires → 0 < expires →
      RenewalOk db id argv contact expires := by
  intro hall
  obtain ⟨db, hreach, hstate⟩ := store.exists_reachableUnder_of_any (fun _ _ => True)
    (fun db => (liveContacts db 7).length == 10 && (db.hashes (contactKey 7 "0")).isSome) empty
    (binds 10) ⟨fun _ => rfl, fun _ => rfl⟩ (by decide)
  rw [Bool.and_eq_true, beq_iff_eq] at hstate
  have hok := hall db hreach 7 (bindArgs 0 60) "0" 60 rfl rfl (by decide)
  have hrenews := hok.1 hstate.2
  rw [(@renews_iff 7 db (inv_of_reachable hreach) (bindArgs 0 60) "0" 60 rfl rfl (by decide)).1]
    at hrenews
  omega

end Yeti.Registrar
