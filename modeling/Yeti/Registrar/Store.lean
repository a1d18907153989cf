import Mathlib.Logic.Function.Basic
import Yeti.Framework.System

/-! # The registrar store

    Model of the Redis keys of the registrar and of `register.lua`.  For an auth id there
    is the set `a:id` of its contacts, and for each of them a hash `c:id:contact` that
    expires.  The set knows nothing of expirations, so the script removes members whose
    hash is gone.

    The keys of sets and hashes differ in their first letter; they are kept in two maps.
-/

open LTS

namespace Yeti.Registrar

/-! ### Keys -/

/-- `Auth::auth_id_type`. -/
abbrev AuthId := Int32

/-- `'a:'..id`. -/
def authKey (id : AuthId) : String := "a:" ++ toString id.toInt

/-- `'c:'..id..':'..c`. -/
def contactKey (id : AuthId) (c : String) : String := "c:" ++ toString id.toInt ++ ":" ++ c

/-! ### Redis -/

/-- The hash of a binding; `ttl` is what `TTL` answers. -/
structure Hash where
  node_id : String
  interface_id : String
  agent : String
  path : String
  ttl : Int
  deriving DecidableEq, Repr

/-- The sets and the hashes that exist.  `SMEMBERS` answers the members in the order of the
    list. -/
structure Db where
  sets : String → List String
  hashes : String → Option Hash

namespace Db

def sadd (db : Db) (key member : String) : Db :=
  if member ∈ db.sets key then db
  else { db with sets := Function.update db.sets key (db.sets key ++ [member]) }

def srem (db : Db) (key member : String) : Db :=
  { db with sets := Function.update db.sets key ((db.sets key).erase member) }

def delSet (db : Db) (key : String) : Db :=
  { db with sets := Function.update db.sets key [] }

def delHash (db : Db) (key : String) : Db :=
  { db with hashes := Function.update db.hashes key none }

/-- `EXISTS` for a hash. -/
def existsHash (db : Db) (key : String) : Int := if (db.hashes key).isSome then 1 else 0

/-- `TTL`: -2 without the key and -1 without expiration. -/
def ttl (db : Db) (key : String) : Int :=
  match db.hashes key with
  | none => -2
  | some h => h.ttl

/-- `HMSET` of the four fields, which does not touch the expiration. -/
def hmset (db : Db) (key node_id interface_id agent path : String) : Db :=
  let ttl := match db.hashes key with
    | none => -1
    | some h => h.ttl
  let hash : Hash := ⟨node_id, interface_id, agent, path, ttl⟩
  { db with hashes := Function.update db.hashes key (some hash) }

/-- `EXPIRE`, which deletes the key if the time is not positive. -/
def expire (db : Db) (key : String) (seconds : Int) : Db :=
  match db.hashes key with
  | none => db
  | some h =>
    if seconds ≤ 0 then db.delHash key
    else { db with hashes := Function.update db.hashes key (some { h with ttl := seconds }) }

end Db

/-! ### `register.lua` -/

/-- An element of the list that `get_bindings` returns. -/
structure Entry where
  contact : String
  expires : Int
  contact_key : String
  path : Option String
  interface_id : Option String
  deriving DecidableEq, Repr

/-- The loop of `get_bindings`. -/
def bindingsLoop (id : AuthId) : List String → Db → List Entry → List Entry × Db
  | [], db, ret => (ret, db)
  | c :: members, db, ret =>
    let contact_key := contactKey id c
    let expires := db.ttl contact_key
    if 0 < expires then
      let hash := db.hashes contact_key
      let d := ⟨c, expires, contact_key, hash.map Hash.path, hash.map Hash.interface_id⟩
      bindingsLoop id members db (ret ++ [d])
    else bindingsLoop id members (db.srem (authKey id) c) ret

/-- `get_bindings`. -/
def get_bindings (id : AuthId) (db : Db) : List Entry × Db :=
  bindingsLoop id (db.sets (authKey id)) db []

/-- `ARGV[1]`. -/
inductive ExpiresArg where
  | missing
  | notNumber
  | number (n : Int)
  deriving DecidableEq, Repr

/-- The arguments of the script. -/
structure Argv where
  expires : ExpiresArg
  contact : Option String := none
  node_id : String := ""
  interface_id : String := ""
  user_agent : Option String := none
  path : Option String := none
  deriving DecidableEq, Repr

/-- What the script returns. -/
inductive Reply where
  | bindings (l : List Entry)
  | nil
  | text (s : String)
  /-- an error of the interpreter -/
  | luaError
  deriving DecidableEq, Repr

def tooManyContacts : String := "Too many registered contacts"

/-- Removes all bindings. -/
def unbindAll (id : AuthId) (db : Db) : Db :=
  ((db.sets (authKey id)).foldl (fun db c => db.delHash (contactKey id c)) db).delSet (authKey id)

/-- Removes the members of the set without a hash. -/
def cleanup (id : AuthId) (db : Db) : Db :=
  (db.sets (authKey id)).foldl (fun db c =>
    if db.existsHash (contactKey id c) = 0 then db.srem (authKey id) c else db) db

/-- Adds a binding. -/
def addBinding (id : AuthId) (argv : Argv) (contact : String) (expires : Int) (db : Db) : Db :=
  let db := db.sadd (authKey id) contact
  let db := db.hmset (contactKey id contact) argv.node_id argv.interface_id
    (argv.user_agent.getD "") (argv.path.getD "")
  db.expire (contactKey id contact) expires

/-- `register.lua`. -/
def register (id : AuthId) (argv : Argv) (db : Db) : Reply × Db :=
  match argv.expires with
  | .missing => let r := get_bindings id db; (.bindings r.1, r.2)
  | .notNumber => (.text "Wrong expires value", db)
  | .number expires =>
    match argv.contact with
    | none => if expires = 0 then (.nil, unbindAll id db) else (.luaError, db)
    | some contact =>
      if expires = 0 then
        let db := db.srem (authKey id) contact
        let db := db.delHash (contactKey id contact)
        let r := get_bindings id db
        (.bindings r.1, r.2)
      else
        let db := cleanup id db
        if 10 ≤ (db.sets (authKey id)).length then (.text tooManyContacts, db)
        else
          let r := get_bindings id (addBinding id argv contact expires db)
          (.bindings r.1, r.2)

/-! ### Runs -/

/-- Invocations of the script, and time passing. -/
inductive StoreLabel where
  | register (id : AuthId) (argv : Argv)
  /-- a key expires -/
  | expired (key : String)
  /-- the time to live of a key goes down -/
  | elapse (key : String) (ttl : Int)

/-- `TTL` is positive as long as the key exists. -/
def next (db : Db) : StoreLabel → Option Db
  | .register id argv => some (register id argv db).2
  | .expired key => (db.hashes key).map fun _ => db.delHash key
  | .elapse key ttl => (db.hashes key).bind fun h =>
      if 0 < ttl ∧ ttl ≤ h.ttl then
        some { db with hashes := Function.update db.hashes key (some { h with ttl := ttl }) }
      else none

/-- The store starts empty. -/
def store : System Db StoreLabel where
  init db := (∀ key, db.sets key = []) ∧ ∀ key, db.hashes key = none
  next := next

end Yeti.Registrar
