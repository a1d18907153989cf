import Mathlib.Data.List.Nodup
import Yeti.Registrar.Store

/-! # The bindings of an auth id

    In every state of every run the contacts with a hash are members of the set, and the
    set has ten members at most.  So the list that the script returns, which is read off
    the set, has exactly the bindings that exist.

    Two things go wrong.  An `EXPIRE` with a negative time deletes the hash that was just
    written, so a bind with negative `expires` unbinds.  And the limit is tested before it
    is known whether the contact is in the set already, so with ten bindings none of them
    can be renewed.
-/

open LTS

namespace Yeti.Registrar

/-! ### Keys -/

/-- The characters of a decimal number. -/
theorem mem_toString_int {n : Int} {c : Char} (h : c ∈ (toString n).toList) :
    c.isDigit = true ∨ c = '-' := by
  rw [Int.toString_eq_repr, Int.repr_eq_if] at h
  have hdigit : ∀ m : Nat, c ∈ m.repr.toList → c.isDigit = true := by
    intro m hm
    rw [Nat.toList_repr] at hm
    exact Nat.isDigit_of_mem_toDigits (by decide) (by decide) hm
  split_ifs at h
  · exact Or.inl (hdigit _ h)
  · rw [String.toList_append, List.mem_append] at h
    rcases h with hminus | hdigits
    · exact Or.inr (List.mem_singleton.mp hminus)
    · exact Or.inl (hdigit _ hdigits)

theorem repr_nat_injective {m n : Nat} (h : m.repr = n.repr) : m = n := by
  have hdigits : Nat.toDigits 10 m = Nat.toDigits 10 n := by
    rw [← Nat.toList_repr, ← Nat.toList_repr, h]
  rw [← @Nat.ofDigitChars_ten_toDigits m, ← @Nat.ofDigitChars_ten_toDigits n, hdigits]

/-- A number does not start like a negative one. -/
theorem repr_nat_ne_minus (m n : Nat) : m.repr ≠ "-" ++ n.repr := by
  intro h
  have hminus : '-' ∈ m.repr.toList := by
    rw [h, String.toList_append]
    exact List.mem_append_left _ (List.mem_singleton_self _)
  rw [Nat.toList_repr] at hminus
  exact absurd (Nat.isDigit_of_mem_toDigits (by decide) (by decide) hminus) (by decide)

theorem toString_int_injective {m n : Int} (h : toString m = toString n) : m = n := by
  rw [Int.toString_eq_repr, Int.toString_eq_repr, Int.repr_eq_if, Int.repr_eq_if] at h
  split_ifs at h
  · have heq := repr_nat_injective h
    omega
  · exact absurd h (repr_nat_ne_minus _ _)
  · exact absurd h.symm (repr_nat_ne_minus _ _)
  · have heq := repr_nat_injective (String.append_right_inj "-" |>.mp h)
    omega

theorem authKey_injective {id id' : AuthId} (h : authKey id = authKey id') : id = id' := by
  have htext : toString id.toInt = toString id'.toInt := (String.append_right_inj "a:").mp h
  exact Int32.toInt_inj.mp (toString_int_injective htext)

theorem colon_notMem_toString_int (n : Int) : ':' ∉ (toString n).toList := by
  intro hmem
  rcases mem_toString_int hmem with hdigit | hminus
  · exact absurd hdigit (by decide)
  · exact absurd hminus (by decide)

/-- The contact starts behind the second colon. -/
theorem contactKey_injective {id id' : AuthId} {c c' : String}
    (h : contactKey id c = contactKey id' c') : id = id' ∧ c = c' := by
  have htext : (toString id.toInt).toList ++ ':' :: c.toList =
      (toString id'.toInt).toList ++ ':' :: c'.toList := by
    have hlist := congrArg String.toList h
    unfold contactKey at hlist
    simp only [String.toList_append, List.append_assoc] at hlist
    exact List.append_cancel_left hlist
  have hstart : ∀ (n : Int) (rest : List Char),
      ((toString n).toList ++ ':' :: rest).takeWhile (· ≠ ':') = (toString n).toList := by
    intro n rest
    rw [List.takeWhile_append_of_pos]
    · simp
    · intro x hx
      have hne : x ≠ ':' := fun heq => colon_notMem_toString_int n (heq ▸ hx)
      simpa using hne
  have hid : (toString id.toInt).toList = (toString id'.toInt).toList := by
    rw [← hstart id.toInt c.toList, htext, hstart]
  rw [hid] at htext
  have hrest := List.append_cancel_left htext
  constructor
  · exact Int32.toInt_inj.mp (toString_int_injective (String.toList_inj.mp hid))
  · exact String.toList_inj.mp (List.cons.inj hrest).2

/-! ### What the script does to the store -/

variable {id : AuthId} {db : Db}

/-- The members of the set that have a hash. -/
def liveContacts (db : Db) (id : AuthId) : List String :=
  (db.sets (authKey id)).filter fun c => (db.hashes (contactKey id c)).isSome

/-- The set of an id replaced. -/
def Db.setContacts (db : Db) (id : AuthId) (contacts : List String) : Db :=
  { db with sets := Function.update db.sets (authKey id) contacts }

@[simp] theorem hashes_setContacts (db : Db) (id : AuthId) (contacts : List String) :
    (db.setContacts id contacts).hashes = db.hashes := rfl

@[simp] theorem sets_setContacts_self (db : Db) (id : AuthId) (contacts : List String) :
    (db.setContacts id contacts).sets (authKey id) = contacts :=
  Function.update_self ..

theorem sets_setContacts_ne (db : Db) {id id' : AuthId} (contacts : List String) (h : id' ≠ id) :
    (db.setContacts id contacts).sets (authKey id') = db.sets (authKey id') :=
  Function.update_of_ne (fun heq => h (authKey_injective heq)) ..

@[simp] theorem setContacts_setContacts (db : Db) (id : AuthId) (contacts contacts' : List String) :
    (db.setContacts id contacts).setContacts id contacts' = db.setContacts id contacts' := by
  simp [Db.setContacts]

theorem setContacts_same (db : Db) (id : AuthId) :
    db.setContacts id (db.sets (authKey id)) = db := by
  simp [Db.setContacts]

/-- What holds between two invocations. -/
structure Inv (db : Db) : Prop where
  member : ∀ id c, (db.hashes (contactKey id c)).isSome = true → c ∈ db.sets (authKey id)
  nodup : ∀ id, (db.sets (authKey id)).Nodup
  bounded : ∀ id, (db.sets (authKey id)).length ≤ 10
  ttl_pos : ∀ key h, db.hashes key = some h → 0 < h.ttl

theorem srem_eq (h : (db.sets (authKey id)).Nodup) (c : String) :
    db.srem (authKey id) c = db.setContacts id ((db.sets (authKey id)).filter (· != c)) := by
  unfold Db.srem Db.setContacts
  rw [h.erase_eq_filter]

/-- Both loops of the script remove the dead ones among the members they go through. -/
theorem foldl_srem (dead : String → Bool) (members : List String)
    (h : (db.sets (authKey id)).Nodup) :
    members.foldl (fun db c => if dead c then db.srem (authKey id) c else db) db =
      db.setContacts id ((db.sets (authKey id)).filter fun c => !(members.contains c && dead c)) := by
  induction members generalizing db with
  | nil => simp [setContacts_same]
  | cons c members ih =>
    rw [List.foldl_cons]
    by_cases hdead : dead c = true
    · rw [if_pos hdead, srem_eq h, ih (by rw [sets_setContacts_self]; exact List.Nodup.filter _ h),
        setContacts_setContacts, sets_setContacts_self, List.filter_filter]
      congr 2
      funext c'
      by_cases hc : c' = c
      · simp [hc, hdead]
      · simp [hc]
    · rw [if_neg hdead, ih h]
      congr 2
      funext c'
      by_cases hc : c' = c
      · simp [hc, hdead]
      · simp [hc]

/-- The entry for a contact, if its hash exists. -/
def entryOf (db : Db) (id : AuthId) (c : String) : Option Entry :=
  (db.hashes (contactKey id c)).map fun h =>
    ⟨c, h.ttl, contactKey id c, some h.path, some h.interface_id⟩

/-- `get_bindings` returns the entries of all members with a hash, and removes the others
    from the set. -/
theorem bindingsLoop_eq (hashes : String → Option Hash)
    (hpos : ∀ key h, hashes key = some h → 0 < h.ttl) (members : List String) (db : Db)
    (hdb : db.hashes = hashes) (ret : List Entry) :
    bindingsLoop id members db ret =
      (ret ++ members.filterMap (entryOf db id),
        members.foldl (fun db c => if (hashes (contactKey id c)).isNone then
          db.srem (authKey id) c else db) db) := by
  induction members generalizing db ret with
  | nil => simp [bindingsLoop]
  | cons c members ih =>
    unfold bindingsLoop
    cases hhash : hashes (contactKey id c) with
    | none =>
      have httl : db.ttl (contactKey id c) = -2 := by
        unfold Db.ttl
        rw [hdb, hhash]
      have hentry : entryOf db id c = none := by
        unfold entryOf
        rw [hdb, hhash]
        rfl
      have hsame : ∀ c', entryOf (db.srem (authKey id) c) id c' = entryOf db id c' := fun _ => rfl
      simp only [httl]
      rw [if_neg (by decide), ih (db.srem (authKey id) c) hdb, List.filterMap_cons_none hentry,
        List.foldl_cons, hhash]
      simp only [funext hsame]
      rfl
    | some h =>
      have httl : db.ttl (contactKey id c) = h.ttl := by
        unfold Db.ttl
        rw [hdb, hhash]
      have hentry : entryOf db id c =
          some ⟨c, h.ttl, contactKey id c, some h.path, some h.interface_id⟩ := by
        unfold entryOf
        rw [hdb, hhash]
        rfl
      simp only [httl]
      rw [if_pos (hpos _ h hhash), ih db hdb, List.filterMap_cons_some hentry, List.foldl_cons, hhash,
        hdb, hhash, List.append_assoc]
      rfl

/-- The store without members that have no hash. -/
def Db.cleaned (db : Db) (id : AuthId) : Db := db.setContacts id (liveContacts db id)

/-- Going through the whole set, the loops clean it. -/
theorem foldl_isNone (h : (db.sets (authKey id)).Nodup) :
    (db.sets (authKey id)).foldl (fun db' c =>
        if (db.hashes (contactKey id c)).isNone then db'.srem (authKey id) c else db') db =
      db.cleaned id := by
  rw [foldl_srem (fun c => (db.hashes (contactKey id c)).isNone) _ h]
  unfold Db.cleaned liveContacts
  congr 1
  apply List.filter_congr
  intro c hc
  simp [hc]

theorem get_bindings_eq (h : Inv db) (id : AuthId) :
    get_bindings id db = ((db.sets (authKey id)).filterMap (entryOf db id), db.cleaned id) := by
  unfold get_bindings
  rw [bindingsLoop_eq db.hashes h.ttl_pos _ db rfl, foldl_isNone (h.nodup id), List.nil_append]

theorem cleanupLoop_eq (hashes : String → Option Hash) (members : List String) (db : Db)
    (hdb : db.hashes = hashes) :
    members.foldl (fun db c =>
        if db.existsHash (contactKey id c) = 0 then db.srem (authKey id) c else db) db =
      members.foldl (fun db c =>
        if (hashes (contactKey id c)).isNone then db.srem (authKey id) c else db) db := by
  induction members generalizing db with
  | nil => rfl
  | cons c members ih =>
    rw [List.foldl_cons, List.foldl_cons]
    have hexists : db.existsHash (contactKey id c) = 0 ↔ (hashes (contactKey id c)).isNone = true := by
      unfold Db.existsHash
      rw [hdb]
      cases hashes (contactKey id c) <;> simp
    by_cases hnone : (hashes (contactKey id c)).isNone = true
    · rw [if_pos hnone, if_pos (hexists.mpr hnone)]
      exact ih _ hdb
    · rw [if_neg hnone, if_neg (fun heq => hnone (hexists.mp heq))]
      exact ih db hdb

theorem cleanup_eq (h : Inv db) (id : AuthId) : cleanup id db = db.cleaned id := by
  unfold cleanup
  rw [cleanupLoop_eq db.hashes _ db rfl, foldl_isNone (h.nodup id)]

/-! ### The invariant -/

theorem mem_liveContacts {c : String} (h : Inv db) :
    c ∈ liveContacts db id ↔ (db.hashes (contactKey id c)).isSome = true := by
  unfold liveContacts
  rw [List.mem_filter]
  constructor
  · intro hmem
    exact hmem.2
  · intro hlive
    exact ⟨h.member id c hlive, hlive⟩

/-- A set may be replaced by a smaller one that still has all contacts with a hash. -/
theorem inv_setContacts (h : Inv db) {contacts : List String}
    (hmember : ∀ c, (db.hashes (contactKey id c)).isSome = true → c ∈ contacts)
    (hnodup : contacts.Nodup) (hbounded : contacts.length ≤ 10) :
    Inv (db.setContacts id contacts) := by
  refine ⟨?_, ?_, ?_, h.ttl_pos⟩
  · intro id' c hlive
    by_cases hid : id' = id
    · rw [hid, sets_setContacts_self]
      exact hmember c (hid ▸ hlive)
    · rw [sets_setContacts_ne db contacts hid]
      exact h.member id' c hlive
  · intro id'
    by_cases hid : id' = id
    · rw [hid, sets_setContacts_self]
      exact hnodup
    · rw [sets_setContacts_ne db contacts hid]
      exact h.nodup id'
  · intro id'
    by_cases hid : id' = id
    · rw [hid, sets_setContacts_self]
      exact hbounded
    · rw [sets_setContacts_ne db contacts hid]
      exact h.bounded id'

theorem inv_cleaned (h : Inv db) (id : AuthId) : Inv (db.cleaned id) := by
  apply inv_setContacts h
  · intro c hlive
    exact (mem_liveContacts h).mpr hlive
  · exact List.Nodup.filter _ (h.nodup id)
  · exact Nat.le_trans (List.length_filter_le _ _) (h.bounded id)

/-- Hashes may go away, and their time may change as long as it is positive. -/
theorem inv_of_hashes (h : Inv db) {hashes : String → Option Hash}
    (hsub : ∀ key, (hashes key).isSome = true → (db.hashes key).isSome = true)
    (hpos : ∀ key hash, hashes key = some hash → 0 < hash.ttl) :
    Inv { db with hashes := hashes } where
  member id c hlive := h.member id c (hsub _ hlive)
  nodup := h.nodup
  bounded := h.bounded
  ttl_pos := hpos

theorem inv_delHash (h : Inv db) (key : String) : Inv (db.delHash key) := by
  apply inv_of_hashes h
  · intro key' hlive
    by_cases hkey : key' = key
    · rw [hkey, Function.update_self] at hlive
      cases hlive
    · rw [Function.update_of_ne hkey] at hlive
      exact hlive
  · intro key' hash hhash
    by_cases hkey : key' = key
    · rw [hkey, Function.update_self] at hhash
      cases hhash
    · rw [Function.update_of_ne hkey] at hhash
      exact h.ttl_pos key' hash hhash

/-- A contact that leaves the set and loses its hash. -/
theorem inv_unbind (h : Inv db) (id : AuthId) (c : String) :
    Inv ((db.srem (authKey id) c).delHash (contactKey id c)) := by
  have heq : (db.srem (authKey id) c).delHash (contactKey id c) =
      (db.delHash (contactKey id c)).setContacts id ((db.sets (authKey id)).filter (· != c)) := by
    rw [srem_eq (h.nodup id)]
    rfl
  rw [heq]
  apply inv_setContacts (inv_delHash h _)
  · intro c' hlive
    rw [List.mem_filter]
    by_cases hc : c' = c
    · rw [hc] at hlive
      have hnone : (db.delHash (contactKey id c)).hashes (contactKey id c) = none :=
        Function.update_self ..
      rw [hnone] at hlive
      cases hlive
    · have hne : contactKey id c' ≠ contactKey id c := fun hkey => hc (contactKey_injective hkey).2
      have hsame : (db.delHash (contactKey id c)).hashes (contactKey id c') =
          db.hashes (contactKey id c') := Function.update_of_ne hne ..
      rw [hsame] at hlive
      exact ⟨h.member id c' hlive, by simpa using hc⟩
  · exact List.Nodup.filter _ (h.nodup id)
  · exact Nat.le_trans (List.length_filter_le _ _) (h.bounded id)

/-- The hashes after all bindings of an id were deleted. -/
theorem foldl_delHash (id : AuthId) (members : List String) (db : Db) :
    members.foldl (fun db c => db.delHash (contactKey id c)) db =
      { db with hashes := fun key =>
          if key ∈ members.map (contactKey id) then none else db.hashes key } := by
  induction members generalizing db with
  | nil => simp
  | cons c members ih =>
    rw [List.foldl_cons, ih]
    unfold Db.delHash
    congr 1
    funext key
    by_cases hkey : key = contactKey id c
    · simp [hkey]
    · simp [hkey]

theorem hashes_unbindAll (db : Db) (id : AuthId) (key : String) :
    (unbindAll id db).hashes key =
      if key ∈ (db.sets (authKey id)).map (contactKey id) then none else db.hashes key := by
  unfold unbindAll
  rw [foldl_delHash]
  rfl

theorem inv_unbindAll (h : Inv db) (id : AuthId) : Inv (unbindAll id db) := by
  unfold unbindAll
  rw [foldl_delHash]
  have hinv : Inv { db with hashes := fun key =>
      if key ∈ (db.sets (authKey id)).map (contactKey id) then none else db.hashes key } := by
    apply inv_of_hashes h
    · intro key hlive
      split_ifs at hlive
      · cases hlive
      · exact hlive
    · intro key hash hhash
      split_ifs at hhash
      exact h.ttl_pos key hash hhash
  have hset := @inv_setContacts id _ hinv [] ?_ List.nodup_nil (Nat.zero_le _)
  · exact hset
  · -- every hash of the id was deleted
    intro c hlive
    by_cases hmem : contactKey id c ∈ (db.sets (authKey id)).map (contactKey id)
    · simp only [if_pos hmem] at hlive
      cases hlive
    · simp only [if_neg hmem] at hlive
      exact absurd (List.mem_map_of_mem (h.member id c hlive)) hmem

/-- The hash that a bind writes. -/
def newHash (argv : Argv) (expires : Int) : Hash :=
  ⟨argv.node_id, argv.interface_id, argv.user_agent.getD "", argv.path.getD "", expires⟩

/-- The members after `SADD`. -/
def withContact (contacts : List String) (c : String) : List String :=
  if c ∈ contacts then contacts else contacts ++ [c]

theorem addBinding_eq (id : AuthId) (argv : Argv) (c : String) (expires : Int) (db : Db) :
    addBinding id argv c expires db =
      { db.setContacts id (withContact (db.sets (authKey id)) c) with
        hashes := Function.update db.hashes (contactKey id c)
          (if expires ≤ 0 then none else some (newHash argv expires)) } := by
  have hsadd : db.sadd (authKey id) c =
      db.setContacts id (withContact (db.sets (authKey id)) c) := by
    unfold Db.sadd withContact
    split_ifs
    · exact (setContacts_same db id).symm
    · rfl
  unfold addBinding
  rw [hsadd]
  unfold Db.expire Db.hmset
  simp only [Function.update_self, Function.update_idem, hashes_setContacts]
  split_ifs
  · unfold Db.delHash
    simp only [Function.update_idem]
  · rfl

theorem inv_addBinding (h : Inv db) (id : AuthId) (argv : Argv) (c : String) (expires : Int)
    (hroom : (db.sets (authKey id)).length < 10) : Inv (addBinding id argv c expires db) := by
  rw [addBinding_eq]
  have hmem : ∀ c' ∈ db.sets (authKey id), c' ∈ withContact (db.sets (authKey id)) c := by
    intro c' hc'
    unfold withContact
    split_ifs
    · exact hc'
    · exact List.mem_append_left _ hc'
  have hself : c ∈ withContact (db.sets (authKey id)) c := by
    unfold withContact
    split_ifs with hin
    · exact hin
    · exact List.mem_append_right _ (List.mem_singleton_self c)
  have hnodup : (withContact (db.sets (authKey id)) c).Nodup := by
    unfold withContact
    split_ifs with hin
    · exact h.nodup id
    · rw [← List.concat_eq_append]
      exact List.Nodup.concat hin (h.nodup id)
  have hlength : (withContact (db.sets (authKey id)) c).length ≤ 10 := by
    unfold withContact
    split_ifs
    · omega
    · rw [List.length_append, List.length_singleton]
      omega
  have hset : Inv (db.setContacts id (withContact (db.sets (authKey id)) c)) :=
    inv_setContacts h (fun c' hlive => hmem c' (h.member id c' hlive)) hnodup hlength
  refine ⟨?_, hset.nodup, hset.bounded, ?_⟩
  · intro id' c' hlive
    by_cases hkey : contactKey id' c' = contactKey id c
    · obtain ⟨rfl, rfl⟩ := contactKey_injective hkey
      show c' ∈ (db.setContacts id' _).sets (authKey id')
      rw [sets_setContacts_self]
      exact hself
    · dsimp only at hlive
      rw [Function.update_of_ne hkey] at hlive
      exact hset.member id' c' hlive
  · intro key hash hhash
    by_cases hkey : key = contactKey id c
    · dsimp only at hhash
      rw [hkey, Function.update_self] at hhash
      split_ifs at hhash with hneg
      rw [← Option.some.inj hhash]
      show 0 < expires
      omega
    · dsimp only at hhash
      rw [Function.update_of_ne hkey] at hhash
      exact h.ttl_pos key hash hhash

/-- The invariant is kept by the script. -/
theorem inv_register (h : Inv db) (id : AuthId) (argv : Argv) : Inv (register id argv db).2 := by
  unfold register
  cases argv.expires with
  | missing =>
    dsimp only
    rw [get_bindings_eq h]
    exact inv_cleaned h id
  | notNumber => exact h
  | number expires =>
    cases argv.contact with
    | none =>
      dsimp only
      split_ifs
      · exact inv_unbindAll h id
      · exact h
    | some contact =>
      dsimp only
      split_ifs with hzero hlimit
      · have hunbind := inv_unbind h id contact
        rw [get_bindings_eq hunbind]
        exact inv_cleaned hunbind id
      · rw [cleanup_eq h]
        exact inv_cleaned h id
      · rw [cleanup_eq h] at hlimit ⊢
        have hadd := inv_addBinding (inv_cleaned h id) id argv contact expires (by omega)
        rw [get_bindings_eq hadd]
        exact inv_cleaned hadd id

theorem inv_next {l : StoreLabel} {db' : Db} (h : Inv db) (hnext : next db l = some db') :
    Inv db' := by
  cases l with
  | register id argv =>
    rw [← Option.some.inj hnext]
    exact inv_register h id argv
  | expired key =>
    obtain ⟨hash, -, rfl⟩ := Option.map_eq_some_iff.mp hnext
    exact inv_delHash h key
  | elapse key ttl =>
    obtain ⟨hash, hhash, hstep⟩ := Option.bind_eq_some_iff.mp hnext
    split_ifs at hstep with httl
    rw [← Option.some.inj hstep]
    apply inv_of_hashes h
    · intro key' hlive
      by_cases hkey : key' = key
      · rw [hkey, hhash]
        rfl
      · rw [Function.update_of_ne hkey] at hlive
        exact hlive
    · intro key' hash' hhash'
      by_cases hkey : key' = key
      · rw [hkey, Function.update_self] at hhash'
        rw [← Option.some.inj hhash']
        exact httl.1
      · rw [Function.update_of_ne hkey] at hhash'
        exact h.ttl_pos key' hash' hhash'

theorem inv_of_reachable (h : store.Reachable db) : Inv db := by
  refine System.invariant_under Inv ?_ ?_ h
  · intro db hinit
    refine ⟨?_, ?_, ?_, ?_⟩
    · intro id c hlive
      rw [hinit.2] at hlive
      cases hlive
    · intro id
      rw [hinit.1]
      exact List.nodup_nil
    · intro id
      rw [hinit.1]
      exact Nat.zero_le _
    · intro key hash hhash
      rw [hinit.2] at hhash
      cases hhash
  · intro db l db' hinv _ hnext
    exact inv_next hinv hnext

end Yeti.Registrar
