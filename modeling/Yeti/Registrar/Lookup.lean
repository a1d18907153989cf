import Mathlib.Algebra.Group.Nat.Defs
import Yeti.Call.AorResolving
import Yeti.Registrar.Registration

/-! # Looking up registered users

    Model of `aor_lookup.lua` and of the way of its result to `aor_lookup_reply::parse`.
    `EXISTS` answers a number, and every number is true in Lua, so the script returns all
    members of a set; for those without a hash the path is `false`, which becomes an
    undefined argument, and `parse` leaves such a pair out.
-/

namespace Yeti.Registrar

open Call (AmArg AorData AorList addAor parseContacts parseEntries parse)

/-! ### The script -/

/-- The Lua values that the script handles; `nil` is left out, since it is never stored. -/
inductive LuaValue where
  | bool (b : Bool)
  | number (n : Int)
  | string (s : String)
  | table (elems : List LuaValue)

/-- Only `false` (and `nil`) is false. -/
def LuaValue.truthy : LuaValue → Bool
  | .bool b => b
  | _ => true

/-- `redis.call('EXISTS', key)`. -/
def callExists (db : Db) (key : String) : LuaValue := .number (db.existsHash key)

/-- `redis.call('HGET', key, 'path')`: a missing value is `false`. -/
def callHgetPath (db : Db) (key : String) : LuaValue :=
  match db.hashes key with
  | none => .bool false
  | some h => .string h.path

/-- The inner loop. -/
def contactsLoop (id : AuthId) (db : Db) : List String → List LuaValue → List LuaValue
  | [], cset => cset
  | c :: members, cset =>
    let contact_key := contactKey id c
    if (callExists db contact_key).truthy then
      contactsLoop id db members (cset ++ [.string c] ++ [callHgetPath db contact_key])
    else contactsLoop id db members cset

/-- The outer loop. -/
def lookupLoop (db : Db) : List AuthId → List LuaValue → List LuaValue
  | [], ret => ret
  | id :: ids, ret =>
    let cset := contactsLoop id db (db.sets (authKey id)) []
    if !cset.isEmpty then
      lookupLoop db ids (ret ++ [.number id.toInt] ++ [.table cset])
    else lookupLoop db ids ret

/-- `aor_lookup.lua`. -/
def aor_lookup (ids : List AuthId) (db : Db) : LuaValue := .table (lookupLoop db ids [])

/-! ### The reply -/

/-- The replies of Redis that a script can give here. -/
inductive RedisReply where
  | nil
  | integer (n : Int)
  | string (s : String)
  | array (elements : List RedisReply)

/-- The conversion of the result of a script. -/
def luaToRedis : LuaValue → RedisReply
  | .bool false => .nil
  | .bool true => .integer 1
  | .number n => .integer n
  | .string s => .string s
  | .table elems => .array (elems.map luaToRedis)

/-- `redisReply2Amarg`. -/
def redisReply2Amarg : RedisReply → AmArg
  | .nil => .undef
  | .integer n => .longlong n
  | .string s => .cstr s
  | .array elements => .array (elements.map redisReply2Amarg)

/-- The lookup as the call leg sees it. -/
def lookupAors (ids : List AuthId) (db : Db) : Option (List (Int × AorList)) :=
  parse true (redisReply2Amarg (luaToRedis (aor_lookup ids db)))

/-! ### What is claimed -/

/-- The contacts of an id that have a hash, with their paths, in the order of the set. -/
def livePairs (db : Db) (id : AuthId) : List AorData :=
  (db.sets (authKey id)).filterMap fun c =>
    (db.hashes (contactKey id c)).map fun h => ⟨c, h.path⟩

/-- The map has an id exactly if it was asked for and has a contact with a hash, and then its
    contacts are `wanted`. -/
def Resolves (db : Db) (ids : List AuthId) (wanted : AuthId → List AorData)
    (aors : List (Int × AorList)) : Prop :=
  (∀ id : AuthId, (aors.lookup id.toInt).isSome = true ↔ id ∈ ids ∧ livePairs db id ≠ []) ∧
    (∀ (id : AuthId) (l : AorList), aors.lookup id.toInt = some l → l.contacts = wanted id) ∧
    ∀ n, (aors.lookup n).isSome = true → ∃ id ∈ ids, id.toInt = n

/-! ### The contacts of an id -/

variable {db : Db} {id : AuthId}

/-- All members are returned, with or without a hash. -/
theorem contactsLoop_eq (id : AuthId) (db : Db) (members : List String) (cset : List LuaValue) :
    contactsLoop id db members cset =
      cset ++ members.flatMap fun c => [.string c, callHgetPath db (contactKey id c)] := by
  induction members generalizing cset with
  | nil => simp [contactsLoop]
  | cons c members ih =>
    unfold contactsLoop
    have htrue : (callExists db (contactKey id c)).truthy = true := rfl
    dsimp only
    rw [if_pos htrue, ih, List.flatMap_cons]
    simp only [List.append_assoc, List.cons_append, List.nil_append]

/-- A value as an argument. -/
def toAmArg (v : LuaValue) : AmArg := redisReply2Amarg (luaToRedis v)

theorem toAmArg_string (s : String) : toAmArg (.string s) = .cstr s := by
  simp [toAmArg, luaToRedis, redisReply2Amarg]

theorem toAmArg_number (n : Int) : toAmArg (.number n) = .longlong n := by
  simp [toAmArg, luaToRedis, redisReply2Amarg]

theorem toAmArg_table (elems : List LuaValue) : toAmArg (.table elems) = .array (elems.map toAmArg) := by
  simp [toAmArg, luaToRedis, redisReply2Amarg]

theorem toAmArg_callHgetPath (key : String) :
    toAmArg (callHgetPath db key) =
      match db.hashes key with
      | none => .undef
      | some h => .cstr h.path := by
  unfold callHgetPath
  cases db.hashes key with
  | none => simp [toAmArg, luaToRedis, redisReply2Amarg]
  | some h => exact toAmArg_string h.path

/-- The arguments for the contacts of an id. -/
def contactArgs (db : Db) (id : AuthId) (members : List String) : List AmArg :=
  (members.flatMap fun c => [.string c, callHgetPath db (contactKey id c)]).map toAmArg

theorem contactArgs_cons (db : Db) (id : AuthId) (c : String) (members : List String) :
    contactArgs db id (c :: members) =
      .cstr c :: toAmArg (callHgetPath db (contactKey id c)) :: contactArgs db id members := by
  unfold contactArgs
  rw [List.flatMap_cons, List.map_append]
  simp [toAmArg_string]

/-- `parse` leaves out the pairs without a path. -/
theorem parseContacts_contactArgs (db : Db) (id : AuthId) (members : List String) :
    parseContacts (contactArgs db id members) =
      members.filterMap fun c =>
        (db.hashes (contactKey id c)).map fun h => (⟨c, h.path⟩ : AorData) := by
  induction members with
  | nil => rfl
  | cons c members ih =>
    rw [contactArgs_cons, toAmArg_callHgetPath]
    cases hhash : db.hashes (contactKey id c) with
    | none =>
      rw [List.filterMap_cons_none (by rw [hhash]; rfl), ← ih]
      rfl
    | some h =>
      rw [List.filterMap_cons_some (by rw [hhash]; rfl), ← ih]
      rfl

theorem length_contactArgs (db : Db) (id : AuthId) (members : List String) :
    (contactArgs db id members).length = 2 * members.length := by
  induction members with
  | nil => rfl
  | cons c members ih =>
    rw [contactArgs_cons, List.length_cons, List.length_cons, List.length_cons, ih]
    omega

/-! ### The map -/

/-- The contacts that the map has for a number. -/
def contactsOf (aors : List (Int × AorList)) (n : Int) : List AorData :=
  match aors.lookup n with
  | none => []
  | some l => l.contacts

theorem isSome_lookup_iff (aors : List (Int × AorList)) (n : Int) :
    (aors.lookup n).isSome = true ↔ contactsOf aors n ≠ [] := by
  unfold contactsOf
  cases aors.lookup n with
  | none => simp
  | some l => simp [AorList.contacts]

theorem contactsOf_addAor (aors : List (Int × AorList)) (m : Int) (d : AorData) (n : Int) :
    contactsOf (addAor aors m d) n = contactsOf aors n ++ if n = m then [d] else [] := by
  induction aors with
  | nil =>
    unfold addAor contactsOf
    by_cases hn : n = m
    · simp [hn, AorList.contacts]
    · have hne : (n == m) = false := by simpa using hn
      simp [List.lookup_cons, hn, hne]
  | cons e aors ih =>
    obtain ⟨k, l⟩ := e
    unfold addAor
    unfold contactsOf at ih ⊢
    by_cases hk : k = m
    · rw [if_pos hk]
      by_cases hn : n = k
      · simp [hn, hk, AorList.contacts]
      · have hne : (n == k) = false := by simpa using hn
        have hnm : n ≠ m := fun heq => hn (heq.trans hk.symm)
        simp [List.lookup_cons, hne, hnm]
    · rw [if_neg hk]
      by_cases hn : n = k
      · have hnm : n ≠ m := fun heq => hk (hn.symm.trans heq)
        simp [hn, hk]
      · have hne : (n == k) = false := by simpa using hn
        simp only [List.lookup_cons, hne]
        exact ih

theorem contactsOf_foldl (ds : List AorData) (aors : List (Int × AorList)) (m n : Int) :
    contactsOf (ds.foldl (addAor · m ·) aors) n =
      contactsOf aors n ++ if n = m then ds else [] := by
  induction ds generalizing aors with
  | nil => simp
  | cons d ds ih =>
    rw [List.foldl_cons, ih, contactsOf_addAor]
    by_cases hn : n = m
    · simp [hn]
    · simp [hn]

/-! ### The whole reply -/

theorem bmod_authId (id : AuthId) : id.toInt.bmod (2 ^ 32) = id.toInt := by
  have hlow := id.le_toInt
  have hhigh := id.toInt_lt
  apply Int.bmod_eq_of_le_mul_two
  · omega
  · omega

/-- The arguments for the ids. -/
def entryArgs (db : Db) (ids : List AuthId) : List AmArg :=
  ids.flatMap fun id =>
    if (db.sets (authKey id)).isEmpty then []
    else [.longlong id.toInt, .array (contactArgs db id (db.sets (authKey id)))]

theorem lookupLoop_args (db : Db) (ids : List AuthId) (ret : List LuaValue) :
    (lookupLoop db ids ret).map toAmArg = ret.map toAmArg ++ entryArgs db ids := by
  induction ids generalizing ret with
  | nil => simp [lookupLoop, entryArgs]
  | cons id ids ih =>
    have hcons : entryArgs db (id :: ids) =
        (if (db.sets (authKey id)).isEmpty then []
          else [.longlong id.toInt, .array (contactArgs db id (db.sets (authKey id)))]) ++
          entryArgs db ids := List.flatMap_cons
    unfold lookupLoop
    dsimp only
    rw [contactsLoop_eq, List.nil_append, hcons]
    cases hmembers : db.sets (authKey id) with
    | nil =>
      rw [List.flatMap_nil, if_neg (by simp), ih]
      simp
    | cons c members =>
      rw [if_pos (by simp), ih, if_neg (by simp)]
      unfold contactArgs
      simp only [List.map_append, List.map_cons, List.map_nil, toAmArg_number, toAmArg_table,
        List.append_assoc, List.cons_append, List.nil_append]

theorem length_entryArgs (db : Db) (ids : List AuthId) : (entryArgs db ids).length % 2 = 0 := by
  induction ids with
  | nil => rfl
  | cons id ids ih =>
    unfold entryArgs at ih ⊢
    rw [List.flatMap_cons, List.length_append]
    split_ifs
    · rw [List.length_nil]
      omega
    · simp only [List.length_cons, List.length_nil]
      omega

/-- The contacts of the map are collected id by id. -/
theorem contactsOf_parseEntries (db : Db) (ids : List AuthId) (aors : List (Int × AorList)) (n : Int) :
    contactsOf (parseEntries (entryArgs db ids) aors) n =
      contactsOf aors n ++ ids.flatMap fun id => if n = id.toInt then livePairs db id else [] := by
  induction ids generalizing aors with
  | nil => simp [entryArgs, parseEntries]
  | cons id ids ih =>
    have hcons : entryArgs db (id :: ids) =
        (if (db.sets (authKey id)).isEmpty then []
          else [.longlong id.toInt, .array (contactArgs db id (db.sets (authKey id)))]) ++
          entryArgs db ids := List.flatMap_cons
    rw [hcons, List.flatMap_cons]
    by_cases hempty : (db.sets (authKey id)).isEmpty = true
    · have hpairs : livePairs db id = [] := by
        unfold livePairs
        rw [List.isEmpty_iff.mp hempty]
        rfl
      rw [if_pos hempty, List.nil_append, ih, hpairs]
      simp
    · have heven : (contactArgs db id (db.sets (authKey id))).length % 2 = 0 := by
        rw [length_contactArgs]
        omega
      rw [if_neg hempty, List.cons_append, List.cons_append, List.nil_append, parseEntries,
        if_neg (not_not.mpr heven), ih, bmod_authId, contactsOf_foldl, parseContacts_contactArgs,
        List.append_assoc]
      rfl

/-- The lookup always succeeds. -/
theorem lookupAors_eq (ids : List AuthId) (db : Db) :
    lookupAors ids db = some (parseEntries (entryArgs db ids) []) := by
  have hargs : redisReply2Amarg (luaToRedis (aor_lookup ids db)) = .array (entryArgs db ids) := by
    have htable := toAmArg_table (lookupLoop db ids [])
    rw [lookupLoop_args] at htable
    exact htable
  unfold lookupAors parse
  rw [hargs]
  simp [length_entryArgs]

theorem flatMap_ite (db : Db) (ids : List AuthId) (id : AuthId) :
    (ids.flatMap fun id' => if id.toInt = id'.toInt then livePairs db id' else []) =
      (List.replicate (ids.count id) (livePairs db id)).flatten := by
  induction ids with
  | nil => rfl
  | cons id' ids ih =>
    rw [List.flatMap_cons, ih, List.count_cons]
    by_cases hid : id' = id
    · simp [hid, List.replicate_succ]
    · have hne : id.toInt ≠ id'.toInt := fun heq => hid (Int32.toInt_inj.mp heq).symm
      simp [hid, hne]

/-- The contacts of an id in the parsed reply. -/
theorem contactsOf_lookup (ids : List AuthId) (db : Db) (id : AuthId) :
    contactsOf (parseEntries (entryArgs db ids) []) id.toInt =
      (List.replicate (ids.count id) (livePairs db id)).flatten := by
  rw [contactsOf_parseEntries, ← flatMap_ite]
  rfl

/-- **AoR lookup.** The reply of the script is always accepted, and the map has the ids that
    were asked for and have a contact with a hash, with their pairs once for each time
    they were asked for. -/
theorem resolves_lookupAors (ids : List AuthId) (db : Db) :
    ∃ aors, lookupAors ids db = some aors ∧
      Resolves db ids (fun id => (List.replicate (ids.count id) (livePairs db id)).flatten) aors := by
  refine ⟨_, lookupAors_eq ids db, ?_, ?_, ?_⟩
  · intro id
    rw [isSome_lookup_iff, contactsOf_lookup, ne_eq, List.flatten_eq_nil_iff]
    simp only [List.mem_replicate, List.count_eq_zero, ne_eq]
    constructor
    · intro hne
      by_contra hnot
      apply hne
      intro l hl
      rw [hl.2]
      by_contra hpairs
      exact hnot ⟨not_not.mp hl.1, hpairs⟩
    · intro h hall
      exact h.2 (hall _ ⟨not_not.mpr h.1, rfl⟩)
  · intro id l hlookup
    show l.contacts = (List.replicate (ids.count id) (livePairs db id)).flatten
    rw [← contactsOf_lookup]
    unfold contactsOf
    rw [hlookup]
  · intro n hsome
    rw [isSome_lookup_iff, contactsOf_parseEntries] at hsome
    have hflat : (ids.flatMap fun id => if n = id.toInt then livePairs db id else []) ≠ [] := hsome
    rw [ne_eq, List.flatMap_eq_nil_iff] at hflat
    push Not at hflat
    obtain ⟨id, hid, hne⟩ := hflat
    split_ifs at hne with hn
    · exact ⟨id, hid, hn.symm⟩
    · exact absurd rfl hne

open StoreExample in
/-- An id that is asked for twice has its contact twice. -/
theorem not_resolves_repeated :
    ¬ ∀ db, store.Reachable db → ∀ ids : List AuthId,
      ∃ aors, lookupAors ids db = some aors ∧ Resolves db ids (livePairs db) aors := by
  intro hall
  obtain ⟨db, hreach, hstate⟩ := store.exists_reachableUnder_of_any (fun _ _ => True)
    (fun db => livePairs db 7 == [⟨"0", ""⟩]) empty (binds 1) ⟨fun _ => rfl, fun _ => rfl⟩ (by decide)
  have hpairs : livePairs db 7 = [⟨"0", ""⟩] := beq_iff_eq.mp hstate
  obtain ⟨aors, haors, hkeys, hcontacts, -⟩ := hall db hreach [7, 7]
  rw [lookupAors_eq] at haors
  cases haors
  have hsome := (hkeys 7).mpr ⟨by decide, by rw [hpairs]; simp⟩
  obtain ⟨l, hl⟩ := Option.isSome_iff_exists.mp hsome
  have hlist := hcontacts 7 l hl
  have htwice := contactsOf_lookup [7, 7] db 7
  unfold contactsOf at htwice
  rw [hl] at htwice
  dsimp only at htwice
  rw [hlist, hpairs] at htwice
  revert htwice
  decide

end Yeti.Registrar
