import Yeti.Headers.Reading

/-! # Headers of authentication and registration

    Model of `OriginationPreAuth::onInvite` and of
    `SBCFactory::processAuthorizedRegister`, the two readers that decide by header
    names, and of how their values depend on the lines of the request.

    Address parsing, the subnets tree, `str2int` and the `Contact` parser are those
    of the SIP stack; the first three are parameters, the last one hands over the
    parsed contacts.
-/

namespace Yeti.Headers

/-! ### `OriginationPreAuth::onInvite` -/

/-- `OriginationPreAuth::Reply`. -/
structure PreAuthReply where
  orig_ip : List Char := []
  x_yeti_auth : List Char := []
  require_incoming_auth : Bool
  require_identity_parsing : Bool
  deriving DecidableEq, Repr

/-- `OriginationPreAuth::IPAuthData`, as far as `onInvite` looks at it. -/
structure IPAuthData where
  x_yeti_auth : List Char
  require_incoming_auth : Bool
  require_identity_parsing : Bool
  deriving DecidableEq, Repr

/-- `class OriginationPreAuth` over the addresses of the SIP stack. -/
structure OriginationPreAuth (Addr : Type) where
  /-- `ycfg.ip_auth_hdr`. -/
  ip_auth_hdr : List Char
  /-- The `signalling_ip` of the trusted balancers. -/
  load_balancers : List (List Char)
  ip_auths : List IPAuthData
  am_inet_pton : List Char → Option Addr
  /-- `subnets_tree.match`: indexes into `ip_auths`. -/
  subnets_match : Addr → List Nat

namespace OriginationPreAuth

variable {Addr : Type}

/-- `x_yeti_auth_hdr`. -/
def x_yeti_auth_hdr : List Char := "X-YETI-AUTH".toList

/-- The loop body of `onInvite`. -/
def onInviteHeader (auth : OriginationPreAuth Addr) (remote_ip hdrs : List Char)
    (start_pos : Nat) (h : Header) (reply : PreAuthReply) : PreAuthReply × Bool :=
  if nameMatches hdrs start_pos h auth.ip_auth_hdr then
    if reply.orig_ip.isEmpty && auth.load_balancers.contains remote_ip then
      ({ reply with orig_ip := value hdrs h }, false)
    else (reply, false)
  else if nameMatches hdrs start_pos h x_yeti_auth_hdr then
    if reply.x_yeti_auth.isEmpty then ({ reply with x_yeti_auth := value hdrs h }, false)
    else (reply, false)
  else (reply, false)

/-- What `onInvite` has read when its loop ends. -/
def readReply (auth : OriginationPreAuth Addr) (pc : ParseCommon) (remote_ip hdrs : List Char) :
    PreAuthReply :=
  readHeaders pc hdrs (auth.onInviteHeader remote_ip hdrs)
    { require_incoming_auth := false, require_identity_parsing := true }

/-- `OriginationPreAuth::onInvite`. -/
def onInvite (auth : OriginationPreAuth Addr) (pc : ParseCommon) (remote_ip hdrs : List Char) :
    Bool × PreAuthReply :=
  let reply := auth.readReply pc remote_ip hdrs
  let reply := if reply.orig_ip.isEmpty then { reply with orig_ip := remote_ip } else reply
  match auth.am_inet_pton reply.orig_ip with
  | none => (false, reply)
  | some addr =>
    -- from the longest mask to the shortest
    let matched := (auth.subnets_match addr).reverse.filterMap (auth.ip_auths[·]?)
    match matched.find? (·.x_yeti_auth == reply.x_yeti_auth) with
    | none => (false, reply)
    | some ip_auth =>
      (true, { reply with
        require_incoming_auth := ip_auth.require_incoming_auth
        require_identity_parsing := ip_auth.require_identity_parsing })

/-- The lines whose value may become `orig_ip`. -/
def takesOrigIp (auth : OriginationPreAuth Addr) (pc : ParseCommon) (line : List Char) : Bool :=
  lineMatches pc auth.ip_auth_hdr line

/-- The lines whose value may become `x_yeti_auth`. -/
def takesXYetiAuth (auth : OriginationPreAuth Addr) (pc : ParseCommon) (line : List Char) : Bool :=
  !lineMatches pc auth.ip_auth_hdr line && lineMatches pc x_yeti_auth_hdr line

end OriginationPreAuth

/-- The first value that is not empty stays. -/
def firstNonEmpty (old v : List Char) : List Char := if old.isEmpty then v else old

/-! ### `SBCFactory::processAuthorizedRegister` -/

/-- `expires_param_header_name`. -/
def expires_param_header_name : List Char := "expires".toList

/-- `path_header_name`. -/
def path_header_name : List Char := "Path".toList

/-- `user_agent_header_name`. -/
def user_agent_header_name : List Char := "User-Agent".toList

/-- The loop body that looks for `Expires`. -/
def expiresHeader (hdrs : List Char) (start_pos : Nat) (h : Header)
    (expires : Option (List Char)) : Option (List Char) × Bool :=
  if nameMatches hdrs start_pos h expires_param_header_name then (some (value hdrs h), true)
  else (expires, false)

/-- The `Expires` header, `none` when `expires_found` stays false. -/
def readExpires (pc : ParseCommon) (hdrs : List Char) : Option (List Char) :=
  readHeaders pc hdrs (expiresHeader hdrs) none

/-- `path` and `user_agent`. -/
structure PathUserAgent where
  path : List Char := []
  user_agent : List Char := []
  deriving DecidableEq, Repr

/-- `if(!path.empty()) path += ","; path += value`. -/
def appendPath (path v : List Char) : List Char :=
  (if path.isEmpty then path else path ++ [',']) ++ v

/-- The loop body that looks for `Path` and `User-Agent`. -/
def pathUserAgentHeader (hdrs : List Char) (start_pos : Nat) (h : Header)
    (s : PathUserAgent) : PathUserAgent × Bool :=
  if nameMatches hdrs start_pos h path_header_name then
    ({ s with path := appendPath s.path (value hdrs h) }, false)
  else if nameMatches hdrs start_pos h user_agent_header_name then
    ({ s with user_agent := value hdrs h }, false)
  else (s, false)

/-- The `Path` and `User-Agent` headers. -/
def readPathUserAgent (pc : ParseCommon) (hdrs : List Char) : PathUserAgent :=
  readHeaders pc hdrs (pathUserAgentHeader hdrs) {}

/-- An element of the `Contact` list as the SIP stack parses it. -/
inductive Contact where
  | asterisk
  | uri (uri_str : List Char) (params : List (List Char × List Char))
  | unparsable
  deriving DecidableEq, Repr

/-- The registrar options of the configuration. -/
structure RegistrarCfg where
  registrar_expires_min : Int
  registrar_expires_max : Int
  registrar_expires_default : Int

/-- What is done with the request. -/
inductive RegisterAction where
  | reply_error (code : Nat) (reason : String) (min_expires : Option Int)
  | fetch_all
  | unbind_all
  | bind (contact : List Char) (expires : Int) (user_agent path : List Char)
  deriving DecidableEq, Repr

/-- `reply_error(req, 500, SIP_REPLY_SERVER_INTERNAL_ERROR)`. -/
def serverInternalError : RegisterAction := .reply_error 500 "Server Internal Error" none

/-- The value of `expires` and `expires_found` before the checks. -/
def findExpires (pc : ParseCommon) (hdrs : List Char)
    (first_contact : Option (List Char × List (List Char × List Char))) : Option (List Char) :=
  match first_contact.bind (·.2.find? (·.1 == expires_param_header_name)) with
  | some p => some p.2
  | none => readExpires pc hdrs

/-- The checks of `expires_int`; an error action otherwise. -/
def checkExpires (cfg : RegistrarCfg) (str2int : List Char → Option Int)
    (expires : Option (List Char)) : Except RegisterAction Int :=
  match expires with
  | none => .ok cfg.registrar_expires_default
  | some expires =>
    match str2int expires with
    | none => .error (.reply_error 400 "Invalid Request" none)
    | some expires_int =>
      if cfg.registrar_expires_min ≠ 0 ∧ expires_int ≠ 0 ∧ expires_int < 3600 ∧
          expires_int < cfg.registrar_expires_min then
        .error (.reply_error 423 "Interval Too Brief" (some cfg.registrar_expires_min))
      else if cfg.registrar_expires_max ≠ 0 ∧ expires_int > cfg.registrar_expires_max then
        .ok cfg.registrar_expires_max
      else .ok expires_int

/-- `SBCFactory::processAuthorizedRegister`; `contact_list` is `none` when it
    cannot be parsed. -/
def processAuthorizedRegister (pc : ParseCommon) (cfg : RegistrarCfg)
    (str2int : List Char → Option Int) (contact_list : Option (List Contact))
    (hdrs : List Char) : RegisterAction :=
  match contact_list with
  | none => serverInternalError
  | some contact_list =>
    let asterisk_contact := contact_list.contains .asterisk
    let contacts := contact_list.filterMap fun
      | .uri uri_str params => some (uri_str, params)
      | _ => none
    if contact_list.contains .unparsable then serverInternalError
    else if asterisk_contact && !contacts.isEmpty then serverInternalError
    else if contacts.isEmpty && !asterisk_contact then .fetch_all
    else
      let first_contact := if asterisk_contact then none else contacts.head?
      match checkExpires cfg str2int (findExpires pc hdrs first_contact) with
      | .error action => action
      | .ok expires_int =>
        if asterisk_contact then
          if expires_int ≠ 0 then .reply_error 400 "Invalid Request" none else .unbind_all
        else
          let r := readPathUserAgent pc hdrs
          .bind ((first_contact.map (·.1)).getD []) expires_int r.user_agent r.path

/-- The lines whose value may become `expires`. -/
def takesExpires (pc : ParseCommon) (line : List Char) : Bool :=
  lineMatches pc expires_param_header_name line

/-- The lines whose value goes into `path`. -/
def takesPath (pc : ParseCommon) (line : List Char) : Bool :=
  lineMatches pc path_header_name line

/-- The lines whose value may become `user_agent`. -/
def takesUserAgent (pc : ParseCommon) (line : List Char) : Bool :=
  !lineMatches pc path_header_name line && lineMatches pc user_agent_header_name line

/-! ### What the loops read -/

section Reads

variable {Addr : Type} (auth : OriginationPreAuth Addr) (pc : ParseCommon)
  (remote_ip hdrs : List Char)

/-- The update of `orig_ip`, which a peer that is no balancer cannot make. -/
def OriginationPreAuth.updOrigIp (old v : List Char) : List Char :=
  if auth.load_balancers.contains remote_ip then firstNonEmpty old v else old

theorem reads_orig_ip :
    Reads pc hdrs (auth.onInviteHeader remote_ip hdrs) (fun _ => True) PreAuthReply.orig_ip
      (auth.takesOrigIp pc) (auth.updOrigIp remote_ip) where
  reads := by
    rintro pre line rest s rfl - hsees
    unfold OriginationPreAuth.onInviteHeader OriginationPreAuth.takesOrigIp
      OriginationPreAuth.updOrigIp firstNonEmpty
    simp only [nameMatches_line hsees, value_line hsees]
    by_cases hip : lineMatches pc auth.ip_auth_hdr line = true
    · rw [if_pos hip, if_pos hip]
      -- only the first value counts, and only from a balancer
      cases s.orig_ip.isEmpty <;> cases auth.load_balancers.contains remote_ip <;> rfl
    · rw [if_neg hip, if_neg hip]
      by_cases hx : lineMatches pc OriginationPreAuth.x_yeti_auth_hdr line = true
      · rw [if_pos hx]
        cases s.x_yeti_auth.isEmpty <;> rfl
      · rw [if_neg hx]
  stops := by
    intro start_pos h s hstop
    unfold OriginationPreAuth.onInviteHeader at hstop
    split_ifs at hstop
  goesOn := fun _ _ _ _ _ => trivial

theorem reads_x_yeti_auth :
    Reads pc hdrs (auth.onInviteHeader remote_ip hdrs) (fun _ => True) PreAuthReply.x_yeti_auth
      (auth.takesXYetiAuth pc) firstNonEmpty where
  reads := by
    rintro pre line rest s rfl - hsees
    unfold OriginationPreAuth.onInviteHeader OriginationPreAuth.takesXYetiAuth firstNonEmpty
    simp only [nameMatches_line hsees, value_line hsees]
    by_cases hip : lineMatches pc auth.ip_auth_hdr line = true
    · -- the first branch shadows this one, also when it stores nothing
      rw [if_pos hip, hip, Bool.not_true, Bool.false_and]
      cases s.orig_ip.isEmpty && auth.load_balancers.contains remote_ip <;> rfl
    · rw [if_neg hip, Bool.of_not_eq_true hip, Bool.not_false, Bool.true_and]
      by_cases hx : lineMatches pc OriginationPreAuth.x_yeti_auth_hdr line = true
      · rw [if_pos hx, if_pos hx]
        cases s.x_yeti_auth.isEmpty <;> rfl
      · rw [if_neg hx, if_neg hx]
  stops := by
    intro start_pos h s hstop
    unfold OriginationPreAuth.onInviteHeader at hstop
    split_ifs at hstop
  goesOn := fun _ _ _ _ _ => trivial

/-- The first value stays. -/
def firstFound (old : Option (List Char)) (v : List Char) : Option (List Char) :=
  old.or (some v)

theorem reads_expires :
    Reads pc hdrs (expiresHeader hdrs) (· = none) id (takesExpires pc) firstFound where
  reads := by
    rintro pre line rest s rfl rfl hsees
    unfold expiresHeader takesExpires
    simp only [nameMatches_line hsees, value_line hsees]
    by_cases hexp : lineMatches pc expires_param_header_name line = true
    · rw [if_pos hexp, if_pos hexp]
      rfl
    · rw [if_neg hexp, if_neg hexp]
  stops := by
    intro start_pos h s hstop v
    unfold expiresHeader at hstop ⊢
    split_ifs at hstop ⊢
    rfl
  goesOn := by
    intro start_pos h s hgoes hon
    unfold expiresHeader at hon ⊢
    split_ifs at hon ⊢
    exact hgoes

theorem reads_path :
    Reads pc hdrs (pathUserAgentHeader hdrs) (fun _ => True) PathUserAgent.path (takesPath pc)
      appendPath where
  reads := by
    rintro pre line rest s rfl - hsees
    unfold pathUserAgentHeader takesPath
    simp only [nameMatches_line hsees, value_line hsees]
    by_cases hpath : lineMatches pc path_header_name line = true
    · rw [if_pos hpath, if_pos hpath]
    · rw [if_neg hpath, if_neg hpath]
      by_cases hua : lineMatches pc user_agent_header_name line = true
      · rw [if_pos hua]
      · rw [if_neg hua]
  stops := by
    intro start_pos h s hstop
    unfold pathUserAgentHeader at hstop
    split_ifs at hstop
  goesOn := fun _ _ _ _ _ => trivial

theorem reads_user_agent :
    Reads pc hdrs (pathUserAgentHeader hdrs) (fun _ => True) PathUserAgent.user_agent
      (takesUserAgent pc) (fun _ v => v) where
  reads := by
    rintro pre line rest s rfl - hsees
    unfold pathUserAgentHeader takesUserAgent
    simp only [nameMatches_line hsees, value_line hsees]
    by_cases hpath : lineMatches pc path_header_name line = true
    · -- a line that passes for `Path` is never the `User-Agent`
      rw [if_pos hpath, hpath]
      rfl
    · rw [if_neg hpath, Bool.of_not_eq_true hpath, Bool.not_false, Bool.true_and]
      by_cases hua : lineMatches pc user_agent_header_name line = true
      · rw [if_pos hua, if_pos hua]
      · rw [if_neg hua, if_neg hua]
  stops := by
    intro start_pos h s hstop
    unfold pathUserAgentHeader at hstop
    split_ifs at hstop
  goesOn := fun _ _ _ _ _ => trivial

end Reads

/-! ### Full names -/

theorem onInvite_orig_ip {Addr : Type} (auth : OriginationPreAuth Addr) (pc : ParseCommon)
    (remote_ip hdrs : List Char) :
    (auth.onInvite pc remote_ip hdrs).2.orig_ip =
      firstNonEmpty (auth.readReply pc remote_ip hdrs).orig_ip remote_ip := by
  unfold OriginationPreAuth.onInvite firstNonEmpty
  simp only
  cases (auth.readReply pc remote_ip hdrs).orig_ip.isEmpty with
  | true => simp only [if_true]; split <;> [rfl; (split <;> rfl)]
  | false => simp only [Bool.false_eq_true, if_false]; split <;> [rfl; (split <;> rfl)]

theorem onInvite_x_yeti_auth {Addr : Type} (auth : OriginationPreAuth Addr) (pc : ParseCommon)
    (remote_ip hdrs : List Char) :
    (auth.onInvite pc remote_ip hdrs).2.x_yeti_auth =
      (auth.readReply pc remote_ip hdrs).x_yeti_auth := by
  unfold OriginationPreAuth.onInvite
  simp only
  cases (auth.readReply pc remote_ip hdrs).orig_ip.isEmpty with
  | true => simp only [if_true]; split <;> [rfl; (split <;> rfl)]
  | false => simp only [Bool.false_eq_true, if_false]; split <;> [rfl; (split <;> rfl)]

/-- Each of the five values depends only on the lines that carry its full name. -/
def AllByFullName {Addr : Type} (auth : OriginationPreAuth Addr) (pc : ParseCommon)
    (remote_ip hdrs : List Char) : Prop :=
  ByFullName pc auth.ip_auth_hdr (fun hdrs => (auth.onInvite pc remote_ip hdrs).2.orig_ip) hdrs ∧
  ByFullName pc OriginationPreAuth.x_yeti_auth_hdr
    (fun hdrs => (auth.onInvite pc remote_ip hdrs).2.x_yeti_auth) hdrs ∧
  ByFullName pc expires_param_header_name (readExpires pc) hdrs ∧
  ByFullName pc path_header_name (fun hdrs => (readPathUserAgent pc hdrs).path) hdrs ∧
  ByFullName pc user_agent_header_name (fun hdrs => (readPathUserAgent pc hdrs).user_agent) hdrs

/-- A node behind one balancer. -/
def sampleAuth : OriginationPreAuth (List Char) where
  ip_auth_hdr := "X-AUTH-IP".toList
  load_balancers := ["10.0.0.1".toList]
  ip_auths := [⟨"key".toList, false, true⟩]
  am_inet_pton ip := some ip
  subnets_match _ := [0]

/-- A request with all five headers, where nothing else comes close to them. -/
def sampleHdrs : List Char :=
  ("Subject: hi\r\nX-AUTH-IP: 192.0.2.7\r\nX-YETI-AUTH: key\r\n" ++
    "Expires: 60\r\nPath: <sip:p>\r\nUser-Agent: ua\r\n").toList

end Yeti.Headers
