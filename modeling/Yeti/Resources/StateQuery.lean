import Mathlib.Data.String.Basic
import Yeti.Framework.Decimal
import Yeti.Framework.Listings
import Yeti.Resources.Failover

/-! # Query of the resource state

    Model of `GetAllResources`, the sequence behind the RPC request for the state of
    resources: `KEYS` finds the keys that match, `HGETALL` reads the values of all nodes
    for each of them, and a single key is read at once.

    Each reply of Redis reaches the sequence through `processRedisReply`.  The key a
    reply belongs to is not part of it: it is found from the number of the replies that
    are still to come.
-/

namespace Yeti.Resources

open Decimal

/-! ### Requests and replies -/

/-- `ANY_VALUE`. -/
def ANY_VALUE : Int := -1

/-- The functions of `AmArg.h` that the sequence uses on the data of a reply. -/
structure AmArgApi where
  /-- `none` is an exception. -/
  asCStr : CounterData → Option String
  /-- What the index one past the end of an array gives; `none` is an exception. -/
  past_end : Option CounterData
  asCStr_cstr : ∀ s, asCStr (.cstr s) = some (String.ofList s)

/-- Commands posted to the read connection. -/
inductive ReadCommand where
  | KEYS (pattern : String)
  | HGETALL (key : String)
  deriving DecidableEq, Repr

/-- The values of the nodes of a resource; undefined before the first one is pushed. -/
abbrev Nodes := Option (List (String × Int))

/-- What is given to `postJsonRpcReply`. -/
inductive RpcReply where
  | success (result : List (String × Nodes))
  | error (code : Nat) (message : String)
  deriving DecidableEq, Repr

/-! ### The sequence -/

/-- The states of `GetAllResources`. -/
inductive QueryState where
  | INITIAL
  | GET_KEYS
  | GET_SINGLE_KEY
  | GET_DATA
  | FINISH
  deriving DecidableEq, Repr

/-- The value of the enumeration. -/
def QueryState.value : QueryState → Nat
  | .INITIAL => 0
  | .GET_KEYS => 1
  | .GET_SINGLE_KEY => 2
  | .GET_DATA => 3
  | .FINISH => 4

/-- `class GetAllResources`; `posted` collects the replies to the request. -/
structure GetAllResources where
  res_key : String
  state : QueryState
  keys : List String := []
  commands_count : Int := 0
  result : List (String × Nodes) := []
  iserror : Bool := false
  posted : List RpcReply := []
  deriving DecidableEq, Repr

/-- `int2str`. -/
def int2str (v : Int) : String := String.ofList (formatInt v)

/-- The macro `int2key`. -/
def int2key (v : Int) : String := if v = ANY_VALUE then "*" else int2str v

/-- `int2str((unsigned int)v)`. -/
def nodeText (v : Int) : String := int2str (v % 2 ^ 32)

/-- One pair of a reply; `none` is an exception of `Reply2Int`. -/
def readPair (u : AmUtils) (node value : CounterData) : Option (Int × Int) :=
  (Reply2Int u node).bind fun n => (Reply2Int u value).map fun v => (n, v)

/-- What the loop over the data of a reply reads, two elements at a time. -/
def readPairs (u : AmUtils) (api : AmArgApi) : List CounterData → List (Option (Int × Int))
  | [] => []
  -- the value of the last node of an array of odd length is one past the end
  | [node] => [api.past_end.bind (readPair u node)]
  | node :: value :: items => readPair u node value :: readPairs u api items

namespace GetAllResources

/-- The constructor. -/
def create (type id : Int) : GetAllResources :=
  if type ≠ ANY_VALUE ∧ id ≠ ANY_VALUE then
    { res_key := "r:" ++ int2str type ++ ":" ++ int2str id
      state := .GET_SINGLE_KEY }
  else
    { res_key := "r:" ++ int2key type ++ ":" ++ int2key id
      state := .INITIAL }

/-- `GetAllResources::on_error`. -/
def on_error (q : GetAllResources) (code : Nat) (message : String) : GetAllResources :=
  if q.iserror then q
  else { q with iserror := true, posted := q.posted ++ [.error code message] }

/-- `GetAllResources::perform`: the sequence, the command it posts and what it returns.
    `ok` is the result of posting the command. -/
def perform (q : GetAllResources) (ok : Bool) : GetAllResources × List ReadCommand × Bool :=
  match q.state with
  | .INITIAL =>
    let q := { q with state := .GET_KEYS }
    if ok then (q, [.KEYS q.res_key], true)
    else (q.on_error 500 "failed to post redis request", [], false)
  | .GET_SINGLE_KEY =>
    let q := { q with
      state := .GET_DATA, keys := q.keys ++ [q.res_key], commands_count := q.commands_count + 1 }
    if ok then (q, [.HGETALL q.res_key], true)
    else (q.on_error 500 "failed to post redis request", [], false)
  | s =>
    (q.on_error 500 ("perform called in the not INITIAL or GET_SINGLE_KEY state: " ++
      Nat.repr s.value), [], false)

/-- The reply to `KEYS`, with the commands posted; `none` is the exception of `asCStr`. -/
def getKeys (api : AmArgApi) (q : GetAllResources) (reply : CounterReply) :
    Option (GetAllResources × List ReadCommand) :=
  if reply.result ≠ .SuccessReply then
    some ({ q.on_error 500 "no reply from storage" with state := .FINISH }, [])
  else
    match reply.data with
    | .undef => some ({ q.on_error 404 "no resources matched" with state := .FINISH }, [])
    | .array [] => some ({ q.on_error 404 "no resources matched" with state := .FINISH }, [])
    | .array items =>
      (items.mapM api.asCStr).map fun keys =>
        ({ q with
            state := .GET_DATA, commands_count := items.length, keys := q.keys ++ keys },
          (q.keys ++ keys).map .HGETALL)
    | _ => some ({ q.on_error 500 "unexpected type of the result data" with state := .FINISH }, [])

/-- The body of the loop over the data of a reply. -/
def pushPair (s : GetAllResources × Nodes) : Option (Int × Int) → GetAllResources × Nodes
  | some p => (s.1, some (Assoc.set (s.2.getD []) (nodeText p.1) p.2))
  | none => (s.1.on_error 500 "can't parse response", s.2)

/-- The reply to `HGETALL`. -/
def getData (u : AmUtils) (api : AmArgApi) (q : GetAllResources) (reply : CounterReply) :
    GetAllResources :=
  let q := { q with commands_count := q.commands_count - 1 }
  if reply.result ≠ .SuccessReply then q.on_error 500 "reply error in the request"
  else
    match reply.data with
    | .undef => q.on_error 500 "undesired reply from the storage"
    | .array items =>
      let key := q.keys.getD (q.keys.length - q.commands_count - 1).toNat ""
      let s := (readPairs u api items).foldl pushPair (q, none)
      { s.1 with result := Assoc.set q.result key s.2 }
    -- other data are passed over
    | _ => q

/-- The end of `processRedisReply` in `GET_DATA`. -/
def finishData (q : GetAllResources) : GetAllResources :=
  if q.commands_count = 0 then
    { q with
      state := .FINISH
      posted := if q.iserror then q.posted else q.posted ++ [.success q.result] }
  else q

/-- `GetAllResources::processRedisReply`, with the commands it posts; whether they could
    be posted is not looked at.  The last part says that the sequence is destroyed. -/
def processRedisReply (u : AmUtils) (api : AmArgApi) (q : GetAllResources)
    (reply : CounterReply) : Option (GetAllResources × List ReadCommand × Bool) :=
  let after : Option (GetAllResources × List ReadCommand) :=
    match q.state with
    | .INITIAL => some (q.on_error 500 "redis reply in the INITIAL state", [])
    | .GET_KEYS => q.getKeys api reply
    | .GET_DATA => some ((q.getData u api reply).finishData, [])
    | .GET_SINGLE_KEY | .FINISH => some (q, [])
  after.map fun r => (r.1, r.2, r.1.state == .FINISH)

end GetAllResources

/-! ### Runs -/

/-- What is seen of a request: the replies to it, and the commands with the replies of
    Redis to them. -/
structure Served where
  posted : List RpcReply
  log : List (ReadCommand × CounterReply)

/-- The replies to the pending commands come when the sequence is gone. -/
def unserved (posted : List RpcReply) (pending : List ReadCommand)
    (replies : List CounterReply) : Option Served :=
  if pending.length = replies.length then some { posted, log := pending.zip replies } else none

/-- Redis answers the pending commands in their order; `none` when there are more or
    fewer replies than commands. -/
def serve (u : AmUtils) (api : AmArgApi) :
    GetAllResources → List ReadCommand → List CounterReply → Option Served
  | q, [], [] => some { posted := q.posted, log := [] }
  | q, c :: pending, reply :: replies =>
    let rest : Option Served :=
      match q.processRedisReply u api reply with
      | some (q', issued, false) => serve u api q' (pending ++ issued) replies
      | some (q', issued, true) => unserved q'.posted (pending ++ issued) replies
      -- the sequence is destroyed with the event
      | none => unserved q.posted pending replies
    rest.map fun out => { out with log := (c, reply) :: out.log }
  | _, _, _ => none

/-- A request for a type and an id, from its sequence to the last reply of Redis. -/
def get_resource_state (u : AmUtils) (api : AmArgApi) (type id : Int) (ok : Bool)
    (replies : List CounterReply) : Option Served :=
  let started := (GetAllResources.create type id).perform ok
  serve u api started.1 started.2.1 replies

end Yeti.Resources
