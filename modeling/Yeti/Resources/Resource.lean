import Mathlib.Data.List.Basic

/-! # Resources and the checking phase

    Model of `resources/Resource.h` and of the two list loops of
    `ResourceRedisConnection::get`: the checking phase, which marks the
    resources to be taken as `active`, and the taking phase, which turns every
    active resource into a `RES_GET` operation.

    C++ `int` fields are `Int`: none of the modelled functions computes with
    them, apart from writing them into commands.
-/

namespace Yeti.Resources

/-! ### Data model -/

/-- `struct Resource`. -/
structure Resource where
  id : Int
  type : Int
  /-- How many units one `get()` takes. -/
  takes : Int
  limit : Int
  taken : Bool := false
  active : Bool := false
  failover_to_next : Bool := false
  deriving DecidableEq, Repr

/-- `ResourceOperation::Operation`. -/
inductive Operation where
  | RES_PUT
  | RES_GET
  | RES_NONE
  deriving DecidableEq, Repr

/-- `class ResourceOperation`. -/
structure ResourceOperation extends Resource where
  op : Operation
  deriving DecidableEq, Repr

/-- The Redis key `r:type:id`. -/
structure Key where
  type : Int
  id : Int
  deriving DecidableEq, Repr

/-- `get_key`. -/
def get_key (r : Resource) : Key := ⟨r.type, r.id⟩

/-! ### The taking phase -/

/-- Loop body of `ResourceRedisConnection::get(ResourceList&)`: the resource is
    marked as taken. -/
def Resource.markTaken (r : Resource) : Resource :=
  if !r.active || r.taken then r else { r with taken := true }

/-- Loop body of `ResourceRedisConnection::get(ResourceList&)`: the operation
    appended to `rol`. -/
def Resource.getOperation (r : Resource) : Option ResourceOperation :=
  if !r.active || r.taken then none
  else some { toResource := r.markTaken, op := .RES_GET }

/-- Loop body of `ResourceRedisConnection::put`. -/
def Resource.putOperation (r : Resource) : Option ResourceOperation :=
  if !r.taken then none else some { toResource := r, op := .RES_PUT }

/-- The operations `ResourceRedisConnection::get(ResourceList&)` hands to
    `process_operations_list`. -/
def getOperations (rl : List Resource) : List ResourceOperation :=
  rl.filterMap (·.getOperation)

/-- The operations `ResourceRedisConnection::put` hands to
    `process_operations_list`. -/
def putOperations (rl : List Resource) : List ResourceOperation :=
  rl.filterMap (·.putOperation)

/-! ### The checking phase -/

/-- `CHECK_STATE_NORMAL`, `CHECK_STATE_FAILOVER` and `CHECK_STATE_SKIP`. -/
inductive CheckState where
  | NORMAL
  | FAILOVER
  | SKIP
  deriving DecidableEq, Repr

/-- What the checking loop leaves behind: `resources_available`, the list with
    its `active` flags, and how far the `resource` iterator has moved. -/
structure CheckOutcome where
  resources_available : Bool
  rl : List Resource
  resource : Nat
  deriving DecidableEq, Repr

/-- The loop goes past `r`. -/
def CheckOutcome.past (r : Resource) (o : CheckOutcome) : CheckOutcome :=
  { o with rl := r :: o.rl, resource := o.resource + 1 }

/-- The checking loop of `ResourceRedisConnection::get(ResourceList&, iterator&)`
    over the counters answered for the resources, in order. -/
def checkLoop : CheckState → List Resource → List Int → CheckOutcome
  | st, res :: rl, used :: result =>
    if st = .SKIP then
      -- intended for failover of a resource that was available
      (checkLoop (if res.failover_to_next then .SKIP else .NORMAL) rl result).past res
    else if used ≥ res.limit then
      -- busy: the next resource stands in for it, if one does
      if res.failover_to_next then
        (checkLoop .FAILOVER rl result).past res
      else
        -- `RES_BUSY`, and the iterator stays at this resource
        { resources_available := false, rl := res :: rl, resource := 0 }
    else
      -- free: the resources it would fail over to are skipped
      (checkLoop (if res.failover_to_next then .SKIP else .NORMAL) rl result).past
        { res with active := true }
  | _, rl, _ => { resources_available := true, rl := rl, resource := 0 }

/-- The checking loop only raises `active` flags: whatever else holds of every
    resource of the list still does afterwards. -/
theorem checkLoop_forall {p : Resource → Prop} (hp : ∀ r, p r → p { r with active := true })
    (rl : List Resource) (result : List Int) (st : CheckState) (h : ∀ r ∈ rl, p r) :
    ∀ r ∈ (checkLoop st rl result).rl, p r := by
  -- in every branch the head keeps its fields, up to `active`
  induction rl generalizing result st with
  | nil => simp [checkLoop]
  | cons res rl ih =>
    cases result with
    | nil => simpa [checkLoop] using h
    | cons used result =>
      have hres : p res := h res (by simp)
      have hrl : ∀ r ∈ rl, p r := fun r hr => h r (by simp [hr])
      unfold checkLoop
      split_ifs
      · simpa [CheckOutcome.past, hres] using ih _ _ hrl
      · simpa [CheckOutcome.past, hres] using ih _ _ hrl
      · simpa [CheckOutcome.past, hres] using ih _ _ hrl
      · simpa [hres] using hrl
      · simpa [CheckOutcome.past, hp res hres] using ih _ _ hrl
      · simpa [CheckOutcome.past, hp res hres] using ih _ _ hrl

end Yeti.Resources
