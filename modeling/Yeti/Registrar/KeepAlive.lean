import Yeti.Registrar.Registration

/-! # Keepalive contexts

    Model of `keepalive_contexts` and of the messages that change it.  Replies of
    `register.lua` come on one connection; the snapshot of `load_contacts.lua` and the
    `del` and `expired` notifications come on another one, which subscribes to them after
    the snapshot was processed.  Within a connection messages keep their order.

    The other nodes work on the same store.  A broken subscription connection loses what
    is on the way, and so may the other one.  Notifications for sets are left out, no
    context has such a key.
-/

open LTS

namespace Yeti.Registrar

/-! ### State -/

/-- `struct keepalive_ctx_data`; the interface stays the text that it is read from. -/
structure KeepAliveCtx where
  aor : String
  path : String
  interface_id : String
  deriving DecidableEq, Repr

/-- A row of the reply of `load_contacts.lua`. -/
structure Row where
  node_id : String
  path : String
  interface_id : String
  key : String
  deriving DecidableEq, Repr

/-- The subscription connection, with the messages that are on the way. -/
inductive Subscription where
  | down
  /-- the scripts are being loaded -/
  | connected
  /-- `load_contacts.lua` was executed, its reply is on the way -/
  | loaded (rows : List Row)
  /-- the reply was processed, `SUBSCRIBE` is on the way -/
  | subscribing
  /-- Redis sends notifications -/
  | active (notifications : List String)
  deriving DecidableEq, Repr

/-- The node and the store. -/
structure Node where
  db : Db
  /-- the keys of bindings that were written so far; `SCAN` goes through those that exist -/
  keyspace : List String
  /-- replies of `register.lua` on the way to this node, oldest first -/
  replies : List Reply
  subscription : Subscription
  keepalive_contexts : String → Option KeepAliveCtx

/-! ### Messages -/

/-- The keys that an invocation of `register.lua` deletes, which is what is notified. -/
def delEvents (id : AuthId) (argv : Argv) (db : Db) : List String :=
  match argv.expires, argv.contact with
  | .number expires, none =>
    if expires = 0 then
      ((db.sets (authKey id)).map (contactKey id)).filter fun key => (db.hashes key).isSome
    else []
  | .number expires, some contact =>
    if expires = 0 then [contactKey id contact].filter fun key => (db.hashes key).isSome
    -- `EXPIRE` deletes the hash that was just written
    else if expires < 0 ∧ (liveContacts db id).length < 10 then [contactKey id contact]
    else []
  | _, _ => []

/-- The key that an invocation binds. -/
def boundKey (id : AuthId) (argv : Argv) (db : Db) : Option String :=
  match argv.expires, argv.contact with
  | .number expires, some contact =>
    if 0 < expires ∧ (liveContacts db id).length < 10 then some (contactKey id contact) else none
  | _, _ => none

/-- Redis notifies the connections that have subscribed. -/
def Subscription.publish (s : Subscription) (keys : List String) : Subscription :=
  match s with
  | .active notifications => .active (notifications ++ keys)
  | s => s

/-- `load_contacts.lua`. -/
def load_contacts (db : Db) (keyspace : List String) : List Row :=
  keyspace.filterMap fun key =>
    (db.hashes key).map fun h => ⟨h.node_id, h.path, h.interface_id, key⟩

/-- What stands behind the first colon. -/
def afterColon (cs : List Char) : Option (List Char) :=
  match cs.dropWhile (· ≠ ':') with
  | [] => none
  | _ :: rest => some rest

/-- The contact in a key, `none` where the format is wrong. -/
def aorOfKey (key : String) : Option String :=
  ((afterColon key.toList).bind afterColon).map String.ofList

/-- The loop of `process_loaded_contacts`. -/
def loadRow (node_id : String) (contexts : String → Option KeepAliveCtx) (d : Row) :
    String → Option KeepAliveCtx :=
  if d.node_id ≠ node_id then contexts
  else
    match aorOfKey d.key with
    | none => contexts
    | some aor =>
      -- `emplace` keeps what is there
      if (contexts d.key).isSome then contexts
      else Function.update contexts d.key (some ⟨aor, d.path, d.interface_id⟩)

/-- `process_loaded_contacts`. -/
def process_loaded_contacts (node_id : String) (rows : List Row) : String → Option KeepAliveCtx :=
  rows.foldl (loadRow node_id) fun _ => none

/-- `process_expired_key`. -/
def process_expired_key (contexts : String → Option KeepAliveCtx) (key : String) :
    String → Option KeepAliveCtx :=
  Function.update contexts key none

/-- `updateKeepAliveContext`. -/
def updateKeepAliveContext (contexts : String → Option KeepAliveCtx) (key aor path interface_id : String) :
    String → Option KeepAliveCtx :=
  Function.update contexts key (some ⟨aor, path, interface_id⟩)

/-- The bindings of a reply that `processRedisRegisterReply` does not skip; `parse_uri` is that
    of the SIP stack. -/
def usedEntries (parse_uri : String → Bool) : Reply → List Entry
  | .bindings l => l.filter fun d => decide (d.contact ≠ "") && parse_uri d.contact
  | _ => []

/-- `processRedisRegisterReply`, without the answer to the phone. -/
def processRedisRegisterReply (parse_uri : String → Bool) (contexts : String → Option KeepAliveCtx)
    (r : Reply) : String → Option KeepAliveCtx :=
  (usedEntries parse_uri r).foldl (fun contexts d =>
    updateKeepAliveContext contexts d.contact_key d.contact (d.path.getD "")
      (d.interface_id.getD "")) contexts

/-! ### Steps -/

inductive NodeLabel where
  /-- this node runs `register.lua` -/
  | registerHere (id : AuthId) (argv : Argv)
  /-- another node runs it -/
  | registerElsewhere (id : AuthId) (argv : Argv)
  | expired (key : String)
  | replyProcessed
  /-- the connection fails, the oldest reply is an error -/
  | replyLost
  | connect
  | disconnect
  | loadExecuted
  | loadProcessed
  | subscribeExecuted
  | notificationProcessed
  deriving DecidableEq, Repr

namespace Node

variable (node_id : String) (parse_uri : String → Bool)

/-- The store after an invocation. -/
def registered (s : Node) (id : AuthId) (argv : Argv) : Node :=
  { s with
    db := (register id argv s.db).2
    keyspace := match argv.contact with
      | none => s.keyspace
      | some contact => s.keyspace ++ [contactKey id contact]
    subscription := s.subscription.publish (delEvents id argv s.db) }

def next (s : Node) : NodeLabel → Option Node
  | .registerHere id argv =>
    let argv := { argv with node_id := node_id }
    some { s.registered id argv with replies := s.replies ++ [(register id argv s.db).1] }
  | .registerElsewhere id argv =>
    if argv.node_id = node_id then none else some (s.registered id argv)
  | .expired key => (s.db.hashes key).map fun _ =>
      { s with db := s.db.delHash key, subscription := s.subscription.publish [key] }
  | .replyProcessed =>
    match s.replies with
    | [] => none
    | r :: replies => some { s with
        replies := replies
        keepalive_contexts := processRedisRegisterReply parse_uri s.keepalive_contexts r }
  | .replyLost =>
    match s.replies with
    | [] => none
    | _ :: replies => some { s with replies := replies }
  | .connect =>
    match s.subscription with
    | .down => some { s with subscription := .connected }
    | _ => none
  | .disconnect => some { s with subscription := .down }
  | .loadExecuted =>
    match s.subscription with
    | .connected => some { s with subscription := .loaded (load_contacts s.db s.keyspace) }
    | _ => none
  | .loadProcessed =>
    match s.subscription with
    | .loaded rows => some { s with
        subscription := .subscribing
        keepalive_contexts := process_loaded_contacts node_id rows }
    | _ => none
  | .subscribeExecuted =>
    match s.subscription with
    | .subscribing => some { s with subscription := .active [] }
    | _ => none
  | .notificationProcessed =>
    match s.subscription with
    | .active (key :: notifications) => some { s with
        subscription := .active notifications
        keepalive_contexts := process_expired_key s.keepalive_contexts key }
    | _ => none

/-- The node starts with an empty map; the store may be any that registrations have led to. -/
def system : System Node NodeLabel where
  init s := store.Reachable s.db ∧ (∀ key, (s.db.hashes key).isSome = true → key ∈ s.keyspace) ∧
    (∀ key ∈ s.keyspace, ∃ id c, key = contactKey id c) ∧ s.replies = [] ∧
    s.subscription = .down ∧ ∀ key, s.keepalive_contexts key = none
  next := next node_id parse_uri

end Node

end Yeti.Registrar
