import Mathlib.Logic.Function.Basic
import Yeti.Resources.Sequences

/-! # The resource connection

    Model of `resources/ResourceRedisConnection.cpp`: the operation queue, the
    two flags `write_async_is_busy` and `resources_inited`, the invalidation
    sequence and the running `OperationResources`, together with the write
    connection they post to.

    A posted command stays in `outstanding` until its reply is delivered.  Its
    `fate` is decided when the connection cannot (any more) bring a reply from
    Redis: `NotConnected` when it is posted without a connection, `IOError` when
    the connection is lost before its reply.  Replies come back in the order in
    which the commands were posted, as the pool thread has one event queue and
    hiredis answers the commands of one connection in order.
-/

namespace Yeti.Resources

/-! ### State -/

/-- The sequence a command was posted for (`user_data`). -/
inductive Owner where
  | inv
  | op (uid : Nat)
  deriving DecidableEq, Repr

/-- A posted command whose reply has not been delivered yet. -/
structure Outstanding where
  cmd : Command
  owner : Owner
  /-- `none` as long as Redis may still answer the command. -/
  fate : Option ResultType := none
  deriving DecidableEq, Repr

/-- `class ResourceRedisConnection` with its write connection. -/
structure Connection where
  /-- `RedisConnection::connected` of `write_async`. -/
  connected : Bool
  /-- `RedisConnection::async_context`; contexts are numbered as they are made. -/
  async_context : Option Nat
  next_context : Nat
  /-- `redisAsyncDisconnect` was called and hiredis waits for pending replies. -/
  disconnecting : Bool := false
  /-- The commands Redis has queued since the `MULTI` of this connection. -/
  multi : Option (List Command) := none
  outstanding : List Outstanding := []
  write_async_is_busy : Bool := false
  resource_operations_queue : List ResourceOperation := []
  inv_seq : InvalidateResources := {}
  resources_inited : Bool := false
  /-- The `OperationResources` objects on the heap. -/
  ops : Nat → Option OperationResources := fun _ => none
  next_uid : Nat := 0
  /-- The process has died: null context, double free or escaped exception. -/
  crashed : Bool := false

namespace Connection

/-! ### Posting commands -/

/-- `RedisConnectionPool::process_request_event` for the commands a sequence has
    posted with `SEQ_REDIS_WRITE`.  While hiredis is disconnecting it refuses
    commands, and the refused command's context destroys the sequence it shares
    with the other commands. -/
def post (c : Connection) (owner : Owner) (cmds : List Command) : Connection :=
  if cmds = [] then c
  else if c.connected && c.disconnecting then { c with crashed := true }
  else
    let fate := if c.connected then none else some ResultType.NotConnected
    { c with outstanding := c.outstanding ++ cmds.map fun cmd => ⟨cmd, owner, fate⟩ }

/-- `inv_seq.perform()`. -/
def performInv (c : Connection) : Connection :=
  { c with inv_seq := c.inv_seq.perform.1 }.post .inv c.inv_seq.perform.2

/-- `new OperationResources(this, rol)` followed by `perform()`: the part that
    `process_operations_queue` and `process_operations_list` share. -/
def performOp (c : Connection) (rol : List ResourceOperation) : Connection :=
  match ({ res_list := rol } : OperationResources).perform with
  | (op, cmds, true) =>
    { c with
      write_async_is_busy := true
      ops := Function.update c.ops c.next_uid (some op)
      next_uid := c.next_uid + 1 }.post (.op c.next_uid) cmds
  | (_, _, false) => c

/-! ### Operations -/

/-- `ResourceRedisConnection::is_ready`. -/
def is_ready (c : Connection) : Bool := c.connected && c.resources_inited

/-- `ResourceRedisConnection::process_operations_queue`. -/
def process_operations_queue (c : Connection) : Connection :=
  if !c.is_ready || c.write_async_is_busy then c
  else if c.resource_operations_queue.isEmpty then c
  else { c.performOp c.resource_operations_queue with resource_operations_queue := [] }

/-- `ResourceRedisConnection::process_operations_list`. -/
def process_operations_list (c : Connection) (rol : List ResourceOperation) : Connection :=
  if c.is_ready && !c.write_async_is_busy then c.performOp rol
  else { c with resource_operations_queue := c.resource_operations_queue ++ rol }

/-- `ResourceRedisConnection::put`. -/
def put (c : Connection) (rl : List Resource) : Connection :=
  if (putOperations rl).isEmpty then c else c.process_operations_list (putOperations rl)

/-- `ResourceRedisConnection::get(ResourceList&)`. -/
def get (c : Connection) (rl : List Resource) : Connection :=
  if (getOperations rl).isEmpty then c else c.process_operations_list (getOperations rl)

/-- `ResourceRedisConnection::invalidate_resources`, up to the wait for
    `resources_inited`. -/
def invalidate_resources (c : Connection) : Connection :=
  let c :=
    if !c.connected then c
    else if !c.resources_inited then c
    else if c.write_async_is_busy then c
    else { c with inv_seq := c.inv_seq.cleanup }.performInv
  { c with resources_inited := false }

/-! ### Connection events -/

/-- `ResourceRedisConnection::on_connect` for the write connection. -/
def on_connect (c : Connection) : Connection :=
  if !c.resources_inited then
    if c.inv_seq.state ≠ .INITIAL then
      { c with inv_seq := c.inv_seq.cleanup }.performInv
    else c.performInv
  else c.process_operations_queue

/-- `ResourceRedisConnection::on_disconnect` for the write connection. -/
def on_disconnect (c : Connection) : Connection :=
  if c.write_async_is_busy then
    { c with resources_inited := false, write_async_is_busy := false }
  else c

/-- hiredis drops the context: pending callbacks get a null reply, the context
    is cleaned up, and a connected one reports the disconnect. -/
def dropContext (c : Connection) : Connection :=
  let c' : Connection :=
    { c with
      outstanding := c.outstanding.map fun o => { o with fate := o.fate.or (some .IOError) }
      multi := none
      connected := false
      async_context := none
      disconnecting := false }
  if c.connected then c'.on_disconnect else c'

/-- `redisAsyncDisconnect(write_async->get_async_context())`. -/
def redisAsyncDisconnect (c : Connection) : Connection :=
  if c.async_context = none then { c with crashed := true }
  else if c.outstanding.any (·.fate.isNone) then { c with disconnecting := true }
  else c.dropContext

/-! ### Replies -/

/-- `process_reply_event` for `REDIS_REPLY_INITIAL_SEQ`.  The flag tells whether
    `resources_initialized_cb` was called. -/
def processInvReply (c : Connection) (reply : Reply) : Connection × Bool :=
  match c.inv_seq.processRedisReply reply with
  | none => ({ c with crashed := true }, false)
  | some (inv_seq, cmds) =>
    let c := { c with inv_seq := inv_seq }.post .inv cmds
    if c.inv_seq.state = .FINISH then
      ({ c with
          resources_inited := true
          inv_seq := { c.inv_seq with initial := false } }.process_operations_queue,
        c.inv_seq.initial)
    else (c, false)

/-- What `process_reply_event` does once the `OperationResources` has finished. -/
def finishOp (c : Connection) (iserror : Bool) : Connection :=
  let c := { c with write_async_is_busy := false }
  if iserror then
    let c := c.redisAsyncDisconnect
    { c with resources_inited := false, inv_seq := c.inv_seq.cleanup }
  else if !c.resources_inited then
    { c with inv_seq := c.inv_seq.cleanup }.performInv
  else c.process_operations_queue

/-- `process_reply_event` for `REDIS_REPLY_OP_SEQ`.  A finished sequence is
    deleted with the event. -/
def processOpReply (c : Connection) (uid : Nat) (reply : Reply) : Connection :=
  match c.ops uid with
  | none => c
  | some op =>
    let (op, cmds) := op.processRedisReply reply
    if op.state = .FINISH then
      { c with ops := Function.update c.ops uid none }.finishOp op.iserror
    else { c with ops := Function.update c.ops uid (some op) }.post (.op uid) cmds

/-- `ResourceRedisConnection::process_reply_event`.  The flag tells whether
    `resources_initialized_cb` was called. -/
def process_reply_event (c : Connection) (owner : Owner) (reply : Reply) : Connection × Bool :=
  match owner with
  | .inv => c.processInvReply reply
  | .op uid => (c.processOpReply uid reply, false)

end Connection

end Yeti.Resources
