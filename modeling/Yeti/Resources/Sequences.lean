import Yeti.Resources.Resource

/-! # Command sequences of the resource connection

    Model of `resources/ResourceSequences.cpp` for the two sequences that write:
    `InvalidateResources`, which resets this node's field of every resource key,
    and `OperationResources`, which applies one batch of GET and PUT operations
    inside a `MULTI .. EXEC` block.  Both are driven by the replies to the
    commands they have posted.
-/

namespace Yeti.Resources

/-! ### Commands -/

/-- The increment argument of `HINCRBY` as the two format strings write it. -/
inductive IncrArg where
  /-- `"%d"`. -/
  | plain (takes : Int)
  /-- `"-%d"`. -/
  | negated (takes : Int)
  deriving DecidableEq, Repr

/-- The integer Redis reads from the argument.  A minus sign before a negative
    number (`--3`) and `-0` are not integers. -/
def IncrArg.value : IncrArg → Option Int
  | .plain takes => some takes
  | .negated takes => if 0 < takes then some (-takes) else none

/-- Commands posted to the write connection.  `HSET` and `HINCRBY` address this
    node's field of the key. -/
inductive Command where
  | KEYS
  | MULTI
  | EXEC
  | HSET (key : Key)
  | HINCRBY (key : Key) (arg : IncrArg)
  deriving DecidableEq, Repr

/-! ### Replies -/

/-- `RedisReplyEvent::result_type`. -/
inductive ResultType where
  | SuccessReply
  | ErrorReply
  | StatusReply
  | IOError
  | NotConnected
  | FailedToSend
  deriving DecidableEq, Repr

/-- The reply data as far as the sequences look at it.  An array element that is
    not a string is `none`. -/
inductive ReplyData where
  | undef
  | array (elems : List (Option Key))
  | other
  deriving DecidableEq, Repr

/-- `RedisReplyEvent`, without the sequence it is addressed to. -/
structure Reply where
  result : ResultType
  data : ReplyData
  deriving DecidableEq, Repr

/-! ### `InvalidateResources` -/

/-- The states of `InvalidateResources`. -/
inductive InvState where
  | INITIAL
  | GET_KEYS
  | CLEAN_RES
  | FINISH
  deriving DecidableEq, Repr

/-- `class InvalidateResources`; `sigterm` records that `on_error` has called
    `kill(getpid(), SIGTERM)`. -/
structure InvalidateResources where
  state : InvState := .INITIAL
  initial : Bool := true
  commands_count : Int := 0
  sigterm : Bool := false
  deriving DecidableEq, Repr

namespace InvalidateResources

/-- `InvalidateResources::cleanup`. -/
def cleanup (q : InvalidateResources) : InvalidateResources :=
  { q with commands_count := 0, state := .INITIAL, initial := false }

/-- `InvalidateResources::on_error`. -/
def on_error (q : InvalidateResources) : InvalidateResources :=
  { q with sigterm := q.sigterm || q.initial }

/-- `InvalidateResources::perform`, with the commands it posts. -/
def perform (q : InvalidateResources) : InvalidateResources × List Command :=
  if q.state = .INITIAL then
    ({ q with state := .GET_KEYS }, [.KEYS])
  else
    (q.on_error, [])

/-- The commands that reset the given keys. -/
def cleanCommands (keys : List Key) : List Command :=
  .MULTI :: keys.map .HSET ++ [.EXEC]

/-- `InvalidateResources::processRedisReply`, with the commands it posts.  `none`
    is the exception `asCStr()` throws for an array element that is no string. -/
def processRedisReply (q : InvalidateResources) (reply : Reply) :
    Option (InvalidateResources × List Command) :=
  match q.state with
  | .INITIAL => some (q.on_error, [])
  | .GET_KEYS =>
    if reply.result ≠ .SuccessReply then some (q.on_error, [])
    else
      match reply.data with
      -- an empty database has nothing to reset
      | .undef => some ({ q with state := .FINISH }, [])
      | .array elems =>
        match elems.mapM id with
        | some keys =>
          some ({ q with state := .CLEAN_RES, commands_count := keys.length + 2 },
            cleanCommands keys)
        | none => none
      | .other => some (q.on_error, [])
  | .CLEAN_RES =>
    let q := { q with commands_count := q.commands_count - 1 }
    -- `QUEUED` for every command of the block, and a success for `EXEC`
    if (q.commands_count ≠ 0 ∧ reply.result ≠ .StatusReply) ∨
        (q.commands_count = 0 ∧ reply.result ≠ .SuccessReply) then
      some (q.on_error, [])
    else if q.commands_count = 0 ∧ reply.result = .SuccessReply then
      some ({ q with state := .FINISH }, [])
    else some (q, [])
  | .FINISH => some (q, [])

variable {q : InvalidateResources} {reply : Reply}

/-- A reply that is neither a status nor a success leaves a sequence that has not
    finished in its state. -/
theorem processRedisReply_failed (hs : q.state ≠ .FINISH)
    (hsucc : reply.result ≠ .SuccessReply) (hstat : reply.result ≠ .StatusReply) :
    ∃ q' : InvalidateResources, q'.state = q.state ∧ q'.initial = q.initial ∧
      q.processRedisReply reply = some (q', []) := by
  cases hst : q.state with
  | INITIAL => exact ⟨q.on_error, hst, rfl, by simp [processRedisReply, hst]⟩
  | GET_KEYS => exact ⟨q.on_error, hst, rfl, by simp [processRedisReply, hst, hsucc]⟩
  | CLEAN_RES =>
    -- the reply is wrong for a command of the block and for its end
    refine ⟨{ q with commands_count := q.commands_count - 1 }.on_error, hst, rfl, ?_⟩
    by_cases hz : q.commands_count - 1 = 0
    · simp [processRedisReply, hst, hz, hsucc]
    · simp [processRedisReply, hst, hz, hstat]
  | FINISH => exact absurd hst hs

/-- The reply to `KEYS` starts the block that resets the keys. -/
theorem processRedisReply_keys (hs : q.state = .GET_KEYS) (ks : List Key) :
    q.processRedisReply ⟨.SuccessReply, .array (ks.map some)⟩ =
      some ({ q with state := .CLEAN_RES, commands_count := ks.length + 2 },
        cleanCommands ks) := by
  have hks : (ks.map some).mapM id = some ks := by
    induction ks with
    | nil => rfl
    | cons k ks ih => simp [ih]
  simp [processRedisReply, hs, hks]

/-- A queued command of the block. -/
theorem processRedisReply_queued (hs : q.state = .CLEAN_RES) (hc : q.commands_count ≠ 1)
    (hres : reply.result = .StatusReply) :
    q.processRedisReply reply =
      some ({ q with commands_count := q.commands_count - 1 }, []) := by
  have hz : q.commands_count - 1 ≠ 0 := by omega
  simp [processRedisReply, hs, hz, hres]

/-- The end of the block. -/
theorem processRedisReply_exec (hs : q.state = .CLEAN_RES) (hc : q.commands_count = 1)
    (hres : reply.result = .SuccessReply) :
    q.processRedisReply reply =
      some ({ q with commands_count := 0, state := .FINISH }, []) := by
  simp [processRedisReply, hs, hc, hres]

end InvalidateResources

/-! ### `OperationResources` -/

/-- The states of `OperationResources`. -/
inductive OpState where
  | INITIAL
  | MULTI_START
  | OP_RES
  | FINISH
  deriving DecidableEq, Repr

/-- `class OperationResources`. -/
structure OperationResources where
  state : OpState := .INITIAL
  res_list : List ResourceOperation
  iserror : Bool := false
  commands_count : Int := 0
  deriving DecidableEq, Repr

/-- Whether `OperationResources` issues a command for the element: `RES_GET` of
    an active resource or `RES_PUT` of a taken one. -/
def ResourceOperation.effective (r : ResourceOperation) : Bool :=
  match r.op with
  | .RES_GET => r.active
  | .RES_PUT => r.taken
  | .RES_NONE => false

namespace OperationResources

/-- `OperationResources::on_error`. -/
def on_error (q : OperationResources) : OperationResources := { q with iserror := true }

/-- `OperationResources::perform`: the sequence, the commands it posts, and
    whether it is to be kept. -/
def perform (q : OperationResources) : OperationResources × List Command × Bool :=
  if q.state = .INITIAL then
    let q := { q with state := .MULTI_START, res_list := q.res_list.filter (·.effective) }
    -- without commands the caller deletes the sequence
    if q.res_list.isEmpty then (q, [], false) else (q, [.MULTI], true)
  else
    (q.on_error, [], false)

/-- The command issued for one element of `res_list`. -/
def hincrby (r : ResourceOperation) : Option Command :=
  if r.op = .RES_GET ∧ r.active then
    some (.HINCRBY (get_key r.toResource) (.plain r.takes))
  else if r.op = .RES_PUT ∧ r.taken then
    some (.HINCRBY (get_key r.toResource) (.negated r.takes))
  else none

/-- `OperationResources::processRedisReply`, with the commands it posts. -/
def processRedisReply (q : OperationResources) (reply : Reply) :
    OperationResources × List Command :=
  match q.state with
  | .INITIAL => (q.on_error, [])
  | .MULTI_START =>
    -- the result of MULTI is not looked at
    ({ q with state := .OP_RES, commands_count := q.res_list.length + 1 },
      q.res_list.filterMap hincrby ++ [.EXEC])
  | .OP_RES =>
    let q := { q with commands_count := q.commands_count - 1 }
    let q :=
      if (q.commands_count ≠ 0 ∧ reply.result ≠ .StatusReply) ∨
          (q.commands_count = 0 ∧ reply.result ≠ .SuccessReply) then
        q.on_error
      else q
    (if q.commands_count = 0 then { q with state := .FINISH } else q, [])
  | .FINISH => (q, [])

variable {q : OperationResources} {reply : Reply}

/-- A queued command of the block. -/
theorem processRedisReply_queued (hs : q.state = .OP_RES) (hc : q.commands_count ≠ 1)
    (hres : reply.result = .StatusReply) :
    q.processRedisReply reply = ({ q with commands_count := q.commands_count - 1 }, []) := by
  have hz : q.commands_count - 1 ≠ 0 := by omega
  simp [processRedisReply, hs, hz, hres]

/-- The end of the block. -/
theorem processRedisReply_exec (hs : q.state = .OP_RES) (hc : q.commands_count = 1)
    (hres : reply.result = .SuccessReply) :
    q.processRedisReply reply = ({ q with commands_count := 0, state := .FINISH }, []) := by
  simp [processRedisReply, hs, hc, hres]

end OperationResources

end Yeti.Resources
