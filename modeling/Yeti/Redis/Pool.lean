import Yeti.Framework.System
import Yeti.Resources.Sequences

/-! # Requests to Redis and their replies

    Model of `RedisConnectionPool`: a `RedisRequestEvent` becomes a command of
    hiredis with a `RedisReplyCtx`, and its reply comes back to the requester as a
    `RedisReplyEvent`.  The `user_data` of the request is to come back with it; it is
    owned by the request, then by the context, then by the reply.

    Moving a `unique_ptr` leaves a null pointer behind, and a moved string is empty.
    Objects are numbered; `destroyed` collects those whose owner was deleted.
-/

open LTS

namespace Yeti.Redis

open Yeti.Resources (ResultType)

variable {Data : Type}

/-! ### Events and contexts -/

/-- `struct RedisRequestEvent`, without the command. -/
structure RedisRequestEvent where
  /-- The connection the command is for. -/
  c : Nat
  persistent_ctx : Bool := false
  src_id : String
  user_data : Option Nat := none
  user_type_id : Int := 0
  deriving DecidableEq, Repr

/-- `struct RedisReplyCtx`; `request` tells which request it is for. -/
structure RedisReplyCtx where
  request : Nat
  c : Nat
  persistent_ctx : Bool
  src_id : String
  user_data : Option Nat
  user_type_id : Int
  deriving DecidableEq, Repr

/-- `struct RedisReplyEvent`; `request` tells which request it answers. -/
structure RedisReplyEvent (Data : Type) where
  request : Nat
  result : ResultType
  data : Option Data
  user_data : Option Nat
  user_type_id : Int
  deriving DecidableEq, Repr

/-- A reply of hiredis. -/
inductive HiredisReply (Data : Type) where
  | error (data : Data)
  | status (data : Data)
  | value (data : Data)
  deriving DecidableEq, Repr

/-- The constructor of `RedisReplyCtx`, and what it leaves of the request. -/
def RedisReplyCtx.ofRequest (request : Nat) (r : RedisRequestEvent) :
    RedisReplyCtx × RedisRequestEvent :=
  (⟨request, r.c, r.persistent_ctx, r.src_id, r.user_data, r.user_type_id⟩,
    { r with src_id := "", user_data := none })

/-- The constructor of `RedisReplyEvent` for a request that was not sent, and what it
    leaves of the request. -/
def RedisReplyEvent.ofRequest (result : ResultType) (request : Nat) (r : RedisRequestEvent) :
    RedisReplyEvent Data × RedisRequestEvent :=
  (⟨request, result, none, r.user_data, r.user_type_id⟩, { r with user_data := none })

/-- The constructor of `RedisReplyEvent` for a reply, and what it leaves of the
    context. -/
def RedisReplyEvent.ofReply (reply : Option (HiredisReply Data)) (ctx : RedisReplyCtx) :
    RedisReplyEvent Data × RedisReplyCtx :=
  let (result, data) :=
    match reply with
    | none => (ResultType.IOError, none)
    | some (.error data) => (.ErrorReply, some data)
    | some (.status data) => (.StatusReply, some data)
    | some (.value data) => (.SuccessReply, some data)
  (⟨ctx.request, result, data, ctx.user_data, ctx.user_type_id⟩, { ctx with user_data := none })

/-! ### The pool -/

/-- `class RedisConnectionPool`, with what it has handed to hiredis and to the
    requesters. -/
structure Pool (Data : Type) where
  /-- `RedisConnection::is_connected`. -/
  is_connected : Nat → Bool := fun _ => false
  persistent_reply_contexts : List RedisReplyCtx := []
  /-- Contexts whose callback hiredis is going to call. -/
  pending : List RedisReplyCtx := []
  /-- The replies given to `AmSessionContainer::postEvent`, with their `src_id`. -/
  posted : List (String × RedisReplyEvent Data) := []
  destroyed : List Nat := []

namespace Pool

/-- The owner of the object, if there is one, is deleted. -/
def destroy (p : Pool Data) (user_data : Option Nat) : Pool Data :=
  { p with destroyed := p.destroyed ++ user_data.toList }

def postEvent (p : Pool Data) (src_id : String) (reply : RedisReplyEvent Data) : Pool Data :=
  { p with posted := p.posted ++ [(src_id, reply)] }

/-- `RedisConnectionPool::process_request_event` for the request with the number
    `request`, which is deleted afterwards; hiredis may refuse the command. -/
def process_request_event (p : Pool Data) (request : Nat) (event : RedisRequestEvent)
    (accepted : Bool) : Pool Data :=
  if p.is_connected event.c then
    if event.src_id ≠ "" then
      -- user data is not allowed for persistent contexts
      let dropped := if event.persistent_ctx then event.user_data else none
      let event := if event.persistent_ctx then { event with user_data := none } else event
      let p := p.destroy dropped
      let (ctx, event) := RedisReplyCtx.ofRequest request event
      if accepted then
        let p := { p with pending := p.pending ++ [ctx] }
        let p :=
          if ctx.persistent_ctx then
            { p with persistent_reply_contexts := p.persistent_reply_contexts ++ [ctx] }
          else p
        p.destroy event.user_data
      else
        let (reply, event) := RedisReplyEvent.ofRequest .FailedToSend request event
        ((p.postEvent ctx.src_id reply).destroy ctx.user_data).destroy event.user_data
    else p.destroy event.user_data
  else if event.src_id ≠ "" then
    let (reply, event') := RedisReplyEvent.ofRequest .NotConnected request event
    (p.postEvent event.src_id reply).destroy event'.user_data
  else p.destroy event.user_data

/-- `redis_request_cb_static`.  A context that is not persistent is deleted. -/
def redis_request_cb_static (p : Pool Data) (reply : Option (HiredisReply Data))
    (ctx : RedisReplyCtx) : Pool Data :=
  let (event, ctx) := RedisReplyEvent.ofReply reply ctx
  let p := p.postEvent ctx.src_id event
  if ctx.persistent_ctx then p else p.destroy ctx.user_data

end Pool

/-! ### Runs -/

/-- A request that was processed: how the connection was, and whether hiredis took
    the command. -/
structure Request where
  event : RedisRequestEvent
  connected : Bool
  accepted : Bool
  deriving DecidableEq, Repr

/-- The pool and all requests so far. -/
structure World (Data : Type) where
  pool : Pool Data := {}
  requests : List Request := []

inductive Label (Data : Type) where
  /-- A request is processed. -/
  | request (event : RedisRequestEvent) (accepted : Bool)
  /-- hiredis calls the callback of a command. -/
  | callback (request : Nat) (reply : Option (HiredisReply Data))
  | connect (c : Nat)
  | disconnect (c : Nat)
  deriving DecidableEq, Repr

/-- One step. -/
def next (w : World Data) : Label Data → Option (World Data)
  | .request event accepted =>
    -- no object is owned by two requests
    if ∀ o ∈ event.user_data, ∀ r ∈ w.requests, r.event.user_data ≠ some o then
      some
        { pool := w.pool.process_request_event w.requests.length event accepted
          requests := w.requests ++ [⟨event, w.pool.is_connected event.c, accepted⟩] }
    else none
  | .callback request reply =>
    match w.pool.pending.find? (·.request = request) with
    | none => none
    | some ctx =>
      let pool := w.pool.redis_request_cb_static reply ctx
      -- a subscription stays until the connection is lost
      if ctx.persistent_ctx && reply.isSome then some { w with pool := pool }
      else
        some { w with pool :=
          { pool with pending := pool.pending.filter (·.request ≠ request) } }
  | .connect c =>
    some { w with pool := { w.pool with is_connected := Function.update w.pool.is_connected c true } }
  | .disconnect c =>
    -- hiredis calls all pending callbacks first
    if w.pool.pending.any (·.c = c) then none
    else
      some { w with pool :=
        { w.pool with is_connected := Function.update w.pool.is_connected c false } }

/-- All runs of the pool. -/
def system (Data : Type) : System (World Data) (Label Data) where
  init := fun w => w = {}
  next := next

end Yeti.Redis
