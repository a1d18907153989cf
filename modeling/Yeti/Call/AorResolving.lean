import Mathlib.Algebra.Group.Nat.Defs
import Yeti.Call.CallCtx

/-! # Resolving registered users

    Model of `SBCCallLeg::onRedisReply`: the answer of the AoR lookup is parsed,
    every profile with a `registered_aor_id` is rewritten to the contacts found for
    it, and profiles at the front that could not be resolved are passed over.

    The URI parser is that of the SIP stack.
-/

namespace Yeti.Call

/-! ### The reply -/

/-- `struct aor_data`. -/
structure AorData where
  contact : String
  path : String
  deriving DecidableEq, Repr

/-- A list of contacts as it stands in `aors`: it has one element at least. -/
structure AorList where
  first : AorData
  others : List AorData
  deriving DecidableEq, Repr

/-- All contacts, in order. -/
def AorList.contacts (l : AorList) : List AorData := l.first :: l.others

/-- The reply data as `redisReply2Amarg` builds it. -/
inductive AmArg where
  | undef
  | longlong (n : Int)
  | cstr (s : String)
  | array (elems : List AmArg)
  deriving Repr

/-- `aors[auth_id].emplace_back(..)`. -/
def addAor (aors : List (Int × AorList)) (auth_id : Int) (d : AorData) : List (Int × AorList) :=
  match aors with
  | [] => [(auth_id, ⟨d, []⟩)]
  | (id, l) :: aors =>
    if id = auth_id then (id, { l with others := l.others ++ [d] }) :: aors
    else (id, l) :: addAor aors auth_id d

/-- The contacts of one entry; elements of another type are left out. -/
def parseContacts : List AmArg → List AorData
  | .cstr contact :: .cstr path :: rest => ⟨contact, path⟩ :: parseContacts rest
  | _ :: _ :: rest => parseContacts rest
  | _ => []

/-- The entries of the reply; entries of another layout are left out. -/
def parseEntries : List AmArg → List (Int × AorList) → List (Int × AorList)
  | .longlong id :: .array aor_data_arg :: rest, aors =>
    if aor_data_arg.length % 2 ≠ 0 then parseEntries rest aors
    else
      -- `static_cast<int>`
      let auth_id := id.bmod (2 ^ 32)
      parseEntries rest ((parseContacts aor_data_arg).foldl (addAor · auth_id ·) aors)
  -- the source goes through the array two elements at a time
  | _ :: _ :: rest, aors => parseEntries rest aors
  | _, aors => aors

/-- `aor_lookup_reply::parse`; `success` tells whether the result is `SuccessReply`. -/
def parse (success : Bool) (data : AmArg) : Option (List (Int × AorList)) :=
  if !success then none
  else
    match data with
    | .array elems => if elems.length % 2 ≠ 0 then none else some (parseEntries elems [])
    | _ => none

/-! ### Rewriting a profile -/

/-- `AmUriParser`: parsing, and the user part and the text of a parsed URI. -/
structure UriParser where
  Uri : Type
  parse_uri : String → Option Uri
  uri_user : Uri → String
  setUser : Uri → String → Uri
  uri_str : Uri → String

/-- A parser that takes no URI apart. -/
def noParser : UriParser where
  Uri := Unit
  parse_uri _ := none
  uri_user _ := ""
  setUser u _ := u
  uri_str _ := ""

/-- `REGISTERED_AOR_MODE_AS_IS`. -/
def REGISTERED_AOR_MODE_AS_IS : Int := 1

/-- `REGISTERED_AOR_MODE_REPLACE_USERPART`. -/
def REGISTERED_AOR_MODE_REPLACE_USERPART : Int := 2

/-- The ruri that `replace_profile_fields` sets. -/
def AorData.newRuri (up : UriParser) (d : AorData) (p : SqlCallProfile) : String :=
  if p.registered_aor_mode_id = REGISTERED_AOR_MODE_AS_IS then d.contact
  else if p.registered_aor_mode_id = REGISTERED_AOR_MODE_REPLACE_USERPART then
    match up.parse_uri p.ruri with
    | some ruri =>
      match up.parse_uri d.contact with
      | some aor => up.uri_str (up.setUser aor (up.uri_user ruri))
      -- fallback to the full replace
      | none => d.contact
    | none => d.contact
  else p.ruri

/-- `aor_data::replace_profile_fields`. -/
def AorData.replace_profile_fields (up : UriParser) (d : AorData) (p : SqlCallProfile) :
    SqlCallProfile :=
  { p with
    ruri := d.newRuri up p
    route := if d.path.isEmpty then p.route else d.path }

/-! ### The loop over the profiles -/

/-- `SC_NOT_REGISTERED`. -/
def SC_NOT_REGISTERED : Nat := 131

/-- The loop over the further contacts of a rewritten profile `p`: each element
    put into the list, with the heap clone that is then rewritten. -/
def cloneLoop (up : UriParser) (p : SqlCallProfile) :
    List AorData → List (SqlCallProfile × SqlCallProfile)
  | [] => []
  | d :: ds =>
    let cloned_p := p.copy
    -- `insert(it, *cloned_p)` copies the clone before it is rewritten
    (cloned_p, d.replace_profile_fields up cloned_p) :: cloneLoop up p ds

/-- The profile is to be resolved. -/
def needsAor (p : SqlCallProfile) : Bool := p.disconnect_code_id = 0 && p.registered_aor_id ≠ 0

/-- The loop over `profiles`. -/
def resolveLoop (up : UriParser) (aors : List (Int × AorList)) :
    List SqlCallProfile → List SqlCallProfile
  | [] => []
  | p :: profiles =>
    if !needsAor p then p :: resolveLoop up aors profiles
    else
      match aors.lookup p.registered_aor_id with
      | none => { p with skip_code_id := SC_NOT_REGISTERED } :: resolveLoop up aors profiles
      | some aors_list =>
        -- the profile itself takes the first contact
        let p := aors_list.first.replace_profile_fields up p
        p :: (cloneLoop up p aors_list.others).map Prod.fst ++ resolveLoop up aors profiles

/-! ### Profiles that are passed over -/

/-- How the reply is dealt with. -/
inductive Resolved where
  /-- `processResourcesAndSdp` goes on with the current profile. -/
  | proceed (ctx : CallCtx)
  /-- The call is refused and its last CDR written. -/
  | refused (response_code : Int) (response_reason : String) (written : List Cdr)
  /-- The current profile is no element of the list: undefined behaviour. -/
  | invalid
  deriving DecidableEq, Repr

/-- The CDR with the reason for which the current profile `p` is passed over. -/
def passedCdr (tr : CodesTranslator) (p : SqlCallProfile) (cdr : Cdr) : Cdr :=
  let t := tr.translate_db_code p.skip_code_id p.aleg_override_id
  if t.write_cdr then
    (cdr.update_internal_reason .DisconnectByTS t.internal_reason
      t.internal_code).update_aleg_reason t.response_reason t.response_code
  else cdr

/-- The loop that passes over the current profile `p`, followed by `rest`. -/
def passOver (tr : CodesTranslator) :
    SqlCallProfile → List SqlCallProfile → CallCtx → Resolved
  | p, rest, ctx =>
    let t := tr.translate_db_code p.skip_code_id p.aleg_override_id
    let cdr := passedCdr tr p ctx.cdr
    let refuse := Resolved.refused t.response_code t.response_reason
      (CallCtx.write_cdr ctx.written cdr true)
    match rest with
    | [] => refuse
    | q :: rest =>
      -- the reply carries the code of the profile before the refusing one
      if q.disconnect_code_id ≠ 0 then refuse
      else
        let ctx : CallCtx :=
          { ctx with
            current_profile := ctx.current_profile + 1
            written := CallCtx.write_cdr ctx.written cdr false
            cdr := cdr.next q }
        if q.skip_code_id ≠ 0 then passOver tr q rest ctx else .proceed ctx

/-- `SBCCallLeg::onRedisReply`; `none` is the exception for a reply that cannot be
    parsed.  The current profile stays the same list element. -/
def onRedisReply (up : UriParser) (tr : CodesTranslator) (ctx : CallCtx) (success : Bool)
    (data : AmArg) : Option Resolved :=
  (parse success data).map fun aors =>
    let ctx : CallCtx :=
      { ctx with
        profiles := resolveLoop up aors ctx.profiles
        current_profile := (resolveLoop up aors (ctx.profiles.take ctx.current_profile)).length }
    match ctx.getCurrentProfile with
    | none => .invalid
    | some p => if p.skip_code_id ≠ 0 then passOver tr p ctx.following ctx else .proceed ctx

end Yeti.Call
