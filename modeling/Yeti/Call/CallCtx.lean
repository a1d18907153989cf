import Yeti.Call.Profile

/-! # Failover between profiles

    Model of `CallCtx.cpp`: the list of profiles of a call, the profile in use and
    its CDR.  `current_profile` is the position of the iterator in the list, and
    `written` collects the CDRs given to `SqlRouter::write_cdr`, in order.

    The CDR is that of a call which is still being routed; the final
    `write_cdr(cdr, true)` ends this phase.
-/

namespace Yeti.Call

/-- `struct CallCtx`, as far as the choice of a profile goes. -/
structure CallCtx where
  profiles : List SqlCallProfile
  current_profile : Nat
  cdr : Cdr
  written : List Cdr := []
  deriving DecidableEq, Repr

namespace CallCtx

/-- `SqlRouter::write_cdr`: a CDR is written once. -/
def write_cdr (written : List Cdr) (cdr : Cdr) (last : Bool) : List Cdr :=
  if cdr.writed then written else written ++ [{ cdr with writed := true, is_last := last }]

/-- `CallCtx::getFirstProfile`. -/
def getFirstProfile (profiles : List SqlCallProfile) : Option CallCtx :=
  match profiles with
  | [] => none
  | p :: _ => some { profiles := profiles, current_profile := 0, cdr := .ofProfile p }

/-- `CallCtx::getCurrentProfile`. -/
def getCurrentProfile (ctx : CallCtx) : Option SqlCallProfile :=
  ctx.profiles[ctx.current_profile]?

/-- The profiles after the current one. -/
def following (ctx : CallCtx) : List SqlCallProfile := ctx.profiles.drop (ctx.current_profile + 1)

/-- The variables of the loop over skipped profiles. -/
structure Skip where
  attempts_counter : Int
  written : List Cdr
  /-- How far `next_profile` has moved. -/
  moved : Nat
  deriving DecidableEq, Repr

/-- One skipped profile: its CDR is written when the code is to be stored. -/
def skipProfile (tr : CodesTranslator) (cdr : Cdr) (p : SqlCallProfile) (s : Skip) : Skip :=
  let t := tr.translate_db_code p.skip_code_id p.aleg_override_id
  if t.write_cdr then
    let skip_cdr := { cdr.next p with attempt_num := s.attempts_counter }.update_internal_reason
      .DisconnectByTS t.internal_reason t.internal_code
    { s with
      written := write_cdr s.written skip_cdr false
      attempts_counter := s.attempts_counter + 1 }
  else s

/-- The loop of `getNextProfile` from the skipped profile `p`, followed by `rest`:
    the first profile that is not skipped, if there is one. -/
def skipLoop (tr : CodesTranslator) (cdr : Cdr) :
    SqlCallProfile → List SqlCallProfile → Skip → Option SqlCallProfile × Skip
  | p, [], s => (none, skipProfile tr cdr p s)
  | p, q :: rest, s =>
    let s := skipProfile tr cdr p s
    -- the CDR of `p` is written before `next_profile` moves
    let s := { s with moved := s.moved + 1 }
    if q.skip_code_id ≠ 0 then skipLoop tr cdr q rest s else (some q, s)

/-- What `getNextProfile` does with the profile `p` it has found. -/
def takeNext (ctx : CallCtx) (early_state resource_failover : Bool) (p : SqlCallProfile)
    (s : Skip) : CallCtx × Option SqlCallProfile :=
  if !early_state && p.disconnect_code_id ≠ 0 then
    -- refuse profiles are ignored for non early state
    ({ ctx with written := s.written }, none)
  else
    let current_profile := ctx.current_profile + s.moved
    if !early_state && !resource_failover then
      ({ ctx with
          written := write_cdr s.written ctx.cdr false
          cdr := { ctx.cdr.next p with attempt_num := s.attempts_counter + 1 }
          current_profile := current_profile }, some p)
    else
      ({ ctx with
          written := s.written
          cdr := { ctx.cdr.update_sql p with attempt_num := s.attempts_counter }
          current_profile := current_profile }, some p)

/-- `CallCtx::getNextProfile`, for a current profile in the list. -/
def getNextProfile (tr : CodesTranslator) (ctx : CallCtx) (early_state resource_failover : Bool) :
    CallCtx × Option SqlCallProfile :=
  let s : Skip := { attempts_counter := ctx.cdr.attempt_num, written := ctx.written, moved := 0 }
  match ctx.getCurrentProfile with
  | none => (ctx, none)
  | some p =>
    if p.skip_code_id ≠ 0 then
      match skipLoop tr ctx.cdr p ctx.following s with
      | (some q, s) => ctx.takeNext early_state resource_failover q s
      | (none, s) => ({ ctx with written := s.written }, none)
    else
      match ctx.following with
      | [] => (ctx, none)
      -- the `skip_code_id` of the next profile is not looked at
      | q :: _ => ctx.takeNext early_state resource_failover q { s with moved := 1 }

/-- A sequence of `getNextProfile` calls; each has its two flags. -/
def getNextProfiles (tr : CodesTranslator) (ctx : CallCtx) (calls : List (Bool × Bool)) :
    CallCtx :=
  calls.foldl (fun ctx f => (ctx.getNextProfile tr f.1 f.2).1) ctx

end CallCtx

end Yeti.Call
