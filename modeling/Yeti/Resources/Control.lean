import Yeti.Framework.System
import Yeti.Resources.Connection

/-! # Resource control

    Model of `resources/ResourceControl.cpp`: the handlers map and the
    `container_ready` flag over the resource connection, and the Redis server
    behind it.  The whole is one transition system, whose labels are the calls of
    the session threads, the events of the write connection, and the delivery of
    the next reply.
-/

open LTS

namespace Yeti.Resources

/-! ### Redis -/

/-- The hashes `r:type:id` as this node sees them. -/
structure Redis where
  /-- This node's field of a key, zero when there is none. -/
  field : Key → Int
  /-- The existing keys. -/
  keys : List Key

namespace Redis

/-- The effect of one command outside of a transaction. -/
def apply (r : Redis) : Command → Redis
  | .HSET k => { field := Function.update r.field k 0, keys := r.keys.insert k }
  | .HINCRBY k arg =>
    match arg.value with
    | some v => { field := Function.update r.field k (r.field k + v), keys := r.keys.insert k }
    | none => r
  | _ => r

/-- The reply to one command outside of a transaction. -/
def answer (r : Redis) : Command → Reply
  | .KEYS => ⟨.SuccessReply, .array (r.keys.map some)⟩
  | .HINCRBY _ arg =>
    match arg.value with
    | some _ => ⟨.SuccessReply, .other⟩
    | none => ⟨.ErrorReply, .other⟩
  | _ => ⟨.SuccessReply, .other⟩

/-- Redis executes a command of a connection whose open transaction is `multi`:
    the new transaction, the new data and the reply.  The commands of a block are
    queued, and applied together by `EXEC`. -/
def exec (r : Redis) (multi : Option (List Command)) (cmd : Command) :
    Option (List Command) × Redis × Reply :=
  match multi, cmd with
  | none, .MULTI => (some [], r, ⟨.StatusReply, .other⟩)
  | none, .EXEC => (none, r, ⟨.ErrorReply, .other⟩)
  | none, cmd => (none, r.apply cmd, r.answer cmd)
  | some queued, .MULTI => (some queued, r, ⟨.ErrorReply, .other⟩)
  | some queued, .EXEC =>
    (none, queued.foldl apply r, ⟨.SuccessReply, .array (queued.map fun _ => none)⟩)
  | some queued, cmd => (some (queued ++ [cmd]), r, ⟨.StatusReply, .other⟩)

/-- Redis executes a list of commands whose replies are lost. -/
def execAll (r : Redis) : Option (List Command) → List Command → Redis
  | _, [] => r
  | multi, cmd :: cmds =>
    match r.exec multi cmd with
    | (multi, r, _) => r.execAll multi cmds

end Redis

/-! ### State -/

/-- `ResourceControl::handlers_entry`. -/
structure HandlersEntry where
  resources : List Resource
  valid : Bool := true
  deriving DecidableEq, Repr

/-- `class ResourceControl` with its connection and the Redis server. -/
structure Control where
  conn : Connection
  redis : Redis
  /-- `handlers`, keyed by the handler string. -/
  handlers : List (Nat × HandlersEntry) := []
  container_ready : Bool := false
  /-- Calls of `invalidate_resources` that have not returned. -/
  invalidating : Nat := 0
  /-- An invalidation has finished at least once. -/
  initedOnce : Bool := false

namespace Control

/-! ### Calls -/

/-- `ResourceControl::get` for a new handler id; `check` are the counters that the
    checking phase reads, `none` when it fails or times out. -/
def get (s : Control) (handler : Nat) (rl : List Resource) (check : Option (List Int)) :
    Control :=
  if rl.isEmpty || !s.container_ready then s
  else
    match check with
    | none => s
    | some result =>
      let o := checkLoop .NORMAL rl result
      if o.resources_available then
        { s with
          conn := s.conn.get o.rl
          handlers := s.handlers ++ [(handler, { resources := o.rl.map (·.markTaken) })] }
      else s

/-- `ResourceControl::put`. -/
def put (s : Control) (handler : Nat) : Control :=
  match s.handlers.lookup handler with
  | none => s
  | some e =>
    let s' : Control := { s with handlers := s.handlers.filter (·.1 ≠ handler) }
    if e.valid then { s' with conn := s.conn.put e.resources } else s'

/-- `ResourceControl::invalidate_resources`, up to the wait of
    `ResourceRedisConnection::invalidate_resources`. -/
def invalidate_resources (s : Control) : Control :=
  { s with
    container_ready := false
    handlers := s.handlers.map fun h => (h.1, { h.2 with valid := false })
    conn := s.conn.invalidate_resources
    invalidating := s.invalidating + 1 }

/-! ### Events of the write connection -/

/-- How Redis answers a command. -/
inductive Answer where
  /-- The command is executed. -/
  | executed
  /-- The command is not executed, and the reply is any other one. -/
  | refused (reply : Reply)
  deriving DecidableEq, Repr

/-- The connection is lost after Redis has executed `n` of the commands it may
    still answer. -/
def disconnect (s : Control) (n : Nat) : Control :=
  let sent := (s.conn.outstanding.filter (·.fate.isNone)).map (·.cmd)
  { s with
    redis := s.redis.execAll s.conn.multi (sent.take n)
    conn := s.conn.dropContext }

/-- The next outstanding command gets its reply: the connection and the data
    after it, and the reply. -/
def answerNext (s : Control) (o : Outstanding) (a : Answer) : Connection × Redis × Reply :=
  match o.fate, a with
  | some result, _ => (s.conn, s.redis, ⟨result, .undef⟩)
  | none, .refused reply => (s.conn, s.redis, reply)
  | none, .executed =>
    match s.redis.exec s.conn.multi o.cmd with
    | (multi, redis, reply) => ({ s.conn with multi := multi }, redis, reply)

/-- Delivery of the reply to the first outstanding command `o`. -/
def deliver (s : Control) (o : Outstanding) (rest : List Outstanding) (a : Answer) : Control :=
  match s.answerNext o a with
  | (conn, redis, reply) =>
    let conn := { conn with outstanding := rest }
    -- a disconnect that waits for pending replies happens after the last of them
    let conn :=
      if conn.disconnecting && !rest.any (·.fate.isNone) then conn.dropContext else conn
    let (conn, initialized) := conn.process_reply_event o.owner reply
    { s with
      conn := conn
      redis := redis
      container_ready := s.container_ready || initialized
      initedOnce := s.initedOnce || conn.resources_inited }

/-! ### The transition system -/

/-- Labels of the resource control system. -/
inductive Label where
  /-- `ResourceControl::get` on a freshly parsed list. -/
  | get (handler : Nat) (rl : List Resource) (check : Option (List Int))
  /-- `ResourceControl::put`. -/
  | put (handler : Nat)
  /-- `ResourceControl::invalidate_resources` is called. -/
  | invalidate
  /-- A call of `ResourceControl::invalidate_resources` returns. -/
  | invalidateReturn
  /-- The reconnect timer makes a new context. -/
  | reconnect
  /-- The connection attempt fails. -/
  | connectFailed
  /-- The write connection is established. -/
  | connect
  /-- The write connection is lost. -/
  | disconnect (executed : Nat)
  /-- Delivery of the next reply. -/
  | reply (a : Answer)
  deriving DecidableEq, Repr

/-- A list as `ResList::parse` leaves it: nothing is active or taken yet. -/
def fresh (rl : List Resource) : Bool := rl.all fun r => !r.active && !r.taken

/-- One step of the system.  Nothing happens after a crash. -/
def next (s : Control) (l : Label) : Option Control :=
  if s.conn.crashed then none
  else
    match l with
    | .get handler rl check =>
      -- `AmSession::getNewId` gives a new handler
      if (s.handlers.lookup handler).isNone && fresh rl then some (s.get handler rl check)
      else none
    | .put handler => some (s.put handler)
    | .invalidate => some s.invalidate_resources
    | .invalidateReturn =>
      if s.invalidating = 0 then none
      else some { s with invalidating := s.invalidating - 1 }
    | .reconnect =>
      if s.conn.connected || s.conn.async_context.isSome then none
      else some { s with conn := { s.conn with
        async_context := some s.conn.next_context
        next_context := s.conn.next_context + 1 } }
    | .connectFailed =>
      if s.conn.connected || s.conn.async_context.isNone then none
      else some { s with conn := s.conn.dropContext }
    | .connect =>
      if s.conn.connected || s.conn.async_context.isNone then none
      else some { s with conn := { s.conn with connected := true }.on_connect }
    | .disconnect n => if s.conn.connected then some (s.disconnect n) else none
    | .reply a =>
      match s.conn.outstanding with
      | [] => none
      | o :: rest => some (s.deliver o rest a)

/-! ### What a step does -/

/-- The steps, with what each of them requires. -/
inductive Step (s : Control) : Label → Control → Prop where
  | get (handler : Nat) (rl : List Resource) (check : Option (List Int))
      (new : (s.handlers.lookup handler).isNone = true) (parsed : fresh rl = true) :
      Step s (.get handler rl check) (s.get handler rl check)
  | put (handler : Nat) : Step s (.put handler) (s.put handler)
  | invalidate : Step s .invalidate s.invalidate_resources
  | invalidateReturn : Step s .invalidateReturn { s with invalidating := s.invalidating - 1 }
  | reconnect (disconnected : s.conn.connected = false) (free : s.conn.async_context = none) :
      Step s .reconnect { s with conn := { s.conn with
        async_context := some s.conn.next_context
        next_context := s.conn.next_context + 1 } }
  | connectFailed (disconnected : s.conn.connected = false) :
      Step s .connectFailed { s with conn := s.conn.dropContext }
  | connect (disconnected : s.conn.connected = false) (context : s.conn.async_context ≠ none) :
      Step s .connect { s with conn := { s.conn with connected := true }.on_connect }
  | disconnect (n : Nat) (connected : s.conn.connected = true) :
      Step s (.disconnect n) (s.disconnect n)
  | reply (a : Answer) (o : Outstanding) (rest : List Outstanding)
      (out : s.conn.outstanding = o :: rest) : Step s (.reply a) (s.deliver o rest a)

variable {s s' : Control} {l : Label}

/-- Nothing happens after a crash. -/
theorem alive_of_next (h : s.next l = some s') : s.conn.crashed = false := by
  unfold next at h
  by_contra hcrashed
  rw [if_pos (by simpa using hcrashed)] at h
  cases h

theorem step_of_next (h : s.next l = some s') : s.Step l s' := by
  have halive := alive_of_next h
  unfold next at h
  rw [if_neg (by simp [halive])] at h
  cases l with
  | get handler rl check =>
    simp only at h
    split_ifs at h with hnew
    cases h
    rw [Bool.and_eq_true] at hnew
    exact .get handler rl check hnew.1 hnew.2
  | put handler =>
    cases h
    exact .put handler
  | invalidate =>
    cases h
    exact .invalidate
  | invalidateReturn =>
    simp only at h
    split_ifs at h
    cases h
    exact .invalidateReturn
  | reconnect =>
    simp only at h
    split_ifs at h with hfree
    cases h
    simp only [Bool.or_eq_true, not_or, Bool.not_eq_true, Option.isSome_eq_false_iff,
      Option.isNone_iff_eq_none] at hfree
    exact .reconnect hfree.1 hfree.2
  | connectFailed =>
    simp only at h
    split_ifs at h with hfree
    cases h
    simp only [Bool.or_eq_true, not_or, Bool.not_eq_true] at hfree
    exact .connectFailed hfree.1
  | connect =>
    simp only at h
    split_ifs at h with hfree
    cases h
    simp only [Bool.or_eq_true, not_or, Bool.not_eq_true, Option.isNone_iff_eq_none] at hfree
    exact .connect hfree.1 hfree.2
  | disconnect n =>
    simp only at h
    split_ifs at h with hconnected
    cases h
    exact .disconnect n hconnected
  | reply a =>
    simp only at h
    split at h
    · cases h
    next o rest hout =>
      cases h
      exact .reply a o rest hout

/-! ### Initial states -/

/-- The process starts: the first context has been made, nothing is connected. -/
def started (redis : Redis) : Control where
  conn := { connected := false, async_context := some 0, next_context := 1 }
  redis := redis

/-- The initial invalidation has finished and every counter is zero. -/
def invalidated (keys : List Key) : Control where
  conn :=
    { connected := true
      async_context := some 0
      next_context := 1
      inv_seq := { state := .FINISH, initial := false }
      resources_inited := true }
  redis := { field := fun _ => 0, keys := keys }
  container_ready := true
  initedOnce := true

/-- The system from process start. -/
def system : System Control Label where
  init s := ∃ redis, s = started redis
  next := next

/-- The system from the end of the initial invalidation. -/
def invalidatedSystem : System Control Label where
  init s := ∃ keys, s = invalidated keys
  next := next

end Control

end Yeti.Resources
