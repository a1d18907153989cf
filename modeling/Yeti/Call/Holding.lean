import Yeti.Call.FailedResource
import Yeti.Framework.Refinement
import Yeti.Resources.Conservation

/-! # The resources of the calls of a node

    Many calls share one `ResourceControl`.  A call asks for the resources of one profile
    after the other, in `processResourcesAndSdp` before the first B leg is made and in
    `chooseNextProfile` after a refusal; it remembers the handler it gets in the profile.
    The handler is given back by `onBLegRefused` before the hunting goes on, by the leg
    that destroys the context, by legs that put the handler their own copy of the profile
    carries, and by two commands of the RPC interface.

    Every call of `rctl` is a step of its own, so that the calls of a node interleave
    with each other and with the events of the resource connection.
-/

open LTS

namespace Yeti.Call.Holding

open Resources FailedResource

/-! ### State -/

/-- Where the thread of the A leg is. -/
inductive Phase where
  /-- It waits for events. -/
  | waiting
  /-- In the loop of `processResourcesAndSdp`. -/
  | processing
  /-- In the loop of `chooseNextProfile`. -/
  | choosing
  deriving DecidableEq, Repr

/-- A call that has its `CallCtx`.  The resource lists and handlers are those of the
    profiles, by their position. -/
structure HeldCall where
  ctx : CallCtx
  rl : Nat → List Resource
  resource_handler : Nat → Option Nat := fun _ => none
  phase : Phase := .processing
  references : Nat := 1
  /-- The handlers in the `call_profile` of the legs. -/
  copied : List Nat := []

/-- The handler of the current profile. -/
def HeldCall.handler (call : HeldCall) : Option Nat :=
  call.resource_handler call.ctx.current_profile

/-- The resources of the current profile. -/
def HeldCall.resources (call : HeldCall) : List Resource := call.rl call.ctx.current_profile

/-- The calls of a node and what they share; `next_id` is what `AmSession::getNewId` gives
    next. -/
structure Node where
  control : Control
  calls : Nat → Option HeldCall := fun _ => none
  next_id : Nat := 0

/-! ### Asking for resources -/

/-- The request is served: `ResourceControl::get` gives a handler. -/
def served (s : Control) (rl : List Resource) (check : Option (List Int)) : Bool :=
  !rl.isEmpty && s.container_ready &&
    check.any fun result => (checkLoop .NORMAL rl result).resources_available

/-- What `ResourceControl::get` returns. -/
def respond (rc : ResourceControl) (s : Control) (rl : List Resource) (check : Option (List Int)) :
    Response :=
  if rl.isEmpty then .RES_CTL_OK
  else if s.container_ready then
    match check with
    | none => (rc.error rl {} none).ret
    | some result =>
      let o := checkLoop .NORMAL rl result
      if o.resources_available then .RES_CTL_OK else (rc.busy o.rl {} ⟨0, o.resource⟩).ret
  else (rc.error rl {} none).ret

/-- The list that `ResourceControl::get` leaves behind. -/
def marked (s : Control) (rl : List Resource) (check : Option (List Int)) : List Resource :=
  if s.container_ready then
    match check with
    | none => rl
    | some result =>
      let o := checkLoop .NORMAL rl result
      if o.resources_available then o.rl.map (·.markTaken) else o.rl
  else rl

/-- `rctl.get` on the current profile, which gives the handler `id` when it is served. -/
def HeldCall.got (call : HeldCall) (s : Control) (id : Nat) (check : Option (List Int)) :
    HeldCall :=
  let pos := call.ctx.current_profile
  { call with
    rl := Function.update call.rl pos (marked s call.resources check)
    resource_handler :=
      if served s call.resources check then
        Function.update call.resource_handler pos (some id)
      else call.resource_handler }

/-- `updateCallProfile` with the current profile: the loop ends with it. -/
def HeldCall.updateCallProfile (call : HeldCall) : HeldCall :=
  { call with phase := .waiting, copied := call.copied ++ call.handler.toList }

/-- The loop ends without a profile. -/
def HeldCall.giveUp (call : HeldCall) : HeldCall := { call with phase := .waiting }

/-- `RES_CTL_NEXT`: the loop goes on with the next profile, unless there is none or it
    refuses the call. -/
def HeldCall.failover (tr : CodesTranslator) (call : HeldCall) : HeldCall :=
  let early_state := decide (call.phase = .processing)
  let next := call.ctx.getNextProfile tr early_state !early_state
  let call := { call with ctx := next.1 }
  match next.2 with
  | none => call.giveUp
  | some profile => if profile.disconnect_code_id ≠ 0 then call.giveUp else call

/-- What the loops do with the answer of `rctl.get`. -/
def HeldCall.react (tr : CodesTranslator) (call : HeldCall) : Response → HeldCall
  | .RES_CTL_OK => call.updateCallProfile
  | .RES_CTL_NEXT => call.failover tr
  | .RES_CTL_REJECT | .RES_CTL_ERROR => call.giveUp

/-- `SBCCallLeg::onBLegRefused` with `chooseNextProfile` up to its loop, after the handler
    of the current profile was put. -/
def HeldCall.hunt (tr : CodesTranslator) (call : HeldCall) : HeldCall :=
  let next := call.ctx.getNextProfile tr false false
  { call with
    ctx := next.1
    phase :=
      match next.2 with
      | none => .waiting
      -- `check_and_refuse`
      | some profile => if profile.disconnect_code_id ≠ 0 then .waiting else .choosing }

/-! ### Steps -/

namespace Node

variable (rc : ResourceControl) (tr : CodesTranslator)

def setCall (n : Node) (c : Nat) (call : HeldCall) : Node :=
  { n with calls := Function.update n.calls c (some call) }

/-- `rctl.put`; a profile without a handler has nothing to put. -/
def put (n : Node) (handler : Option Nat) : Node :=
  match handler with
  | none => n
  | some h => { n with control := n.control.put h }

/-- One round of a loop of the call `c`. -/
def attempt (n : Node) (c : Nat) (call : HeldCall) (check : Option (List Int)) : Node :=
  let r := respond rc n.control call.resources check
  let n' := n.setCall c ((call.got n.control n.next_id check).react tr r)
  { n' with
    control := n.control.get n.next_id call.resources check
    next_id := n.next_id + 1 }

/-- `SBCCallLeg::onBeforeDestroy` of a leg that holds the context. -/
def destroyLeg (n : Node) (c : Nat) (call : HeldCall) : Node :=
  if call.references - 1 = 0 then
    { n.put call.handler with calls := Function.update n.calls c none }
  else n.setCall c { call with references := call.references - 1 }

/-- Labels of the node; `c` is a call. -/
inductive Label where
  /-- A call comes to `processResourcesAndSdp`, with the resources of its profiles. -/
  | start (c : Nat) (ctx : CallCtx) (rl : List (List Resource))
  /-- One round of the loop that the call is in; `check` is what Redis answers. -/
  | attempt (c : Nat) (check : Option (List Int))
  /-- A refused B leg, when the hunting is not stopped. -/
  | refused (c : Nat)
  /-- `rctl.put(call_profile.resource_handler)` of a leg: an exception of
      `processResourcesAndSdp`, or `onServerShutdown`. -/
  | putCopy (c handler : Nat)
  /-- `YetiRpc::RemoveCall`. -/
  | release (c : Nat)
  /-- `YetiRpc::requestResourcesHandlerInvalidate`. -/
  | putHandler (handler : Nat)
  /-- A B leg is made from a leg that holds the context. -/
  | newLeg (c : Nat)
  /-- A leg that holds the context accepts a REFER. -/
  | refer (c : Nat)
  | onBeforeDestroy (c : Nat)
  /-- A step of the resource control that no call makes. -/
  | control (l : Control.Label)
  deriving DecidableEq

/-- A step of the resource control that no call makes. -/
def nextControl (s : Control) : Control.Label → Option Control
  | .get _ _ _ => none
  | .put _ => none
  | l => s.next l

/-- A step of the call `c`. -/
def nextCall (n : Node) (c : Nat) (call : HeldCall) : Label → Option Node
  | .attempt _ check => if call.phase = .waiting then none else some (n.attempt rc tr c call check)
  | .refused _ =>
    if call.phase = .waiting then some ((n.put call.handler).setCall c (call.hunt tr)) else none
  | .putCopy _ handler => if handler ∈ call.copied then some (n.put (some handler)) else none
  | .release _ => some (n.put call.handler)
  | .newLeg _ => some (n.setCall c { call with references := call.references + 1 })
  -- the count goes down, and that is all
  | .refer _ => some (n.setCall c { call with references := call.references - 1 })
  | .onBeforeDestroy _ => some (n.destroyLeg c call)
  | _ => none

/-- One step.  Nothing happens after a crash. -/
def next (n : Node) (l : Label) : Option Node :=
  if n.control.conn.crashed then none
  else
    match l with
    | .start c ctx rl =>
      if (n.calls c).isNone && rl.all Control.fresh then
        some (n.setCall c { ctx := ctx, rl := fun pos => rl.getD pos [] })
      else none
    | .putHandler handler => some (n.put (some handler))
    | .control l => (nextControl n.control l).map fun control => { n with control := control }
    | .attempt c _ | .refused c | .putCopy c _ | .release c | .newLeg c | .refer c
    | .onBeforeDestroy c => (n.calls c).bind fun call => n.nextCall rc tr c call l

/-- All runs of the calls of a node, from the end of the initial invalidation. -/
def system : System Node Label where
  init n := ∃ keys, n = { control := Control.invalidated keys }
  next := next rc tr

/-- The handlers in the map of `ResourceControl`. -/
def held (n : Node) : List Nat := n.control.handlers.map Prod.fst

end Node

end Yeti.Call.Holding
