import Mathlib.Data.List.Basic
import Yeti.Call.Dialling
import Yeti.Call.Hunting

/-! # The profile in use and its CDR

    What the functions that move a call from one profile to another do to the context:
    the position only grows, CDRs are only added to those written, and the CDR in use is
    that of the profile in use.
-/

namespace Yeti.Call

/-! ### What a CDR takes from its profile -/

/-- The fields that a CDR takes from its profile and that stay.  The destination is no
    such field: the AoR lookup changes it in the profile alone. -/
structure Bill where
  trusted_hdrs_gw : Bool
  dyn_fields : String
  time_limit : Int
  resources : String
  deriving DecidableEq, Repr

def SqlCallProfile.bill (p : SqlCallProfile) : Bill :=
  ⟨p.trusted_hdrs_gw, p.dyn_fields, p.time_limit, p.resources⟩

def Cdr.bill (cdr : Cdr) : Bill :=
  ⟨cdr.trusted_hdrs_gw, cdr.dyn_fields, cdr.time_limit, cdr.resources⟩

/-- Two CDRs that differ in causes, times and addresses at most. -/
structure Cdr.Same (cdr cdr' : Cdr) : Prop where
  bill : cdr'.bill = cdr.bill
  writed : cdr'.writed = cdr.writed
  attempt_num : cdr'.attempt_num = cdr.attempt_num

namespace Cdr.Same

theorem refl (cdr : Cdr) : cdr.Same cdr := ⟨rfl, rfl, rfl⟩

theorem trans {a b c : Cdr} (hab : a.Same b) (hbc : b.Same c) : a.Same c :=
  ⟨hbc.bill.trans hab.bill, hbc.writed.trans hab.writed, hbc.attempt_num.trans hab.attempt_num⟩

theorem update_internal_reason (cdr : Cdr) (initiator : DisconnectInitiator) (reason : String)
    (code : Int) : cdr.Same (cdr.update_internal_reason initiator reason code) := by
  unfold Cdr.update_internal_reason
  dsimp only
  split_ifs <;> exact ⟨rfl, rfl, rfl⟩

theorem update_aleg_reason (cdr : Cdr) (reason : String) (code : Int) :
    cdr.Same (cdr.update_aleg_reason reason code) := by
  unfold Cdr.update_aleg_reason
  split_ifs <;> exact ⟨rfl, rfl, rfl⟩

theorem update_with_action (cdr : TimedCdr) (act : UpdateAction) (now : Nat) :
    cdr.toCdr.Same (cdr.update_with_action act now).toCdr := by
  unfold TimedCdr.update_with_action
  cases act <;> dsimp only <;> split_ifs <;> exact ⟨rfl, rfl, rfl⟩

theorem update_bleg_reason (cdr : TimedCdr) (reason : String) (code : Int) :
    cdr.toCdr.Same (cdr.update_bleg_reason reason code).toCdr := by
  unfold TimedCdr.update_bleg_reason
  split_ifs <;> exact ⟨rfl, rfl, rfl⟩

theorem timed_update_internal_reason (cdr : TimedCdr) (initiator : DisconnectInitiator)
    (reason : String) (code : Int) (now : Nat) :
    cdr.toCdr.Same (cdr.update_internal_reason initiator reason code now).toCdr :=
  (update_with_action cdr .End now).trans (update_internal_reason _ initiator reason code)

theorem onInviteException (cdr : TimedCdr) (code : Int) (reason : String) (no_reply : Bool) :
    cdr.toCdr.Same (cdr.onInviteException code reason no_reply).toCdr := by
  unfold TimedCdr.onInviteException
  dsimp only
  split_ifs <;> exact ⟨rfl, rfl, rfl⟩

/-- No event of the call changes what the CDR bills. -/
theorem apply (e : CdrEvent) (cdr : TimedCdr) : cdr.toCdr.Same (e.apply cdr).toCdr := by
  cases e with
  | update_internal_reason initiator reason code now =>
    exact timed_update_internal_reason cdr initiator reason code now
  | update_aleg_reason reason code => exact update_aleg_reason cdr.toCdr reason code
  | update_bleg_reason reason code => exact update_bleg_reason cdr reason code
  | update_with_action act now => exact update_with_action cdr act now
  | onInviteException code reason no_reply => exact onInviteException cdr code reason no_reply

theorem update_with_sip_reply (cdr : ReplyCdr) (reply : AmSipReply) (now : Nat) :
    cdr.toCdr.Same (cdr.update_with_sip_reply reply now).toCdr := by
  unfold ReplyCdr.update_with_sip_reply
  dsimp only
  split_ifs <;> exact ⟨rfl, rfl, rfl⟩

theorem recordRefusal (env : RefusalEnv) (c : RefusalCtx) (reply : AmSipReply) :
    c.cdr.toCdr.Same (SbcState.recordRefusal env c reply).toCdr :=
  (((update_with_sip_reply c.cdr reply env.now).trans (update_bleg_reason _ _ _)).trans
    (timed_update_internal_reason _ _ _ _ _)).trans (update_aleg_reason _ _ _)

theorem check_and_refuse (env : RefusalEnv) (cdr : ReplyCdr) (profile : SqlCallProfile) :
    cdr.toCdr.Same (SbcState.check_and_refuse env cdr profile).toCdr := by
  unfold SbcState.check_and_refuse
  dsimp only
  split_ifs
  · exact (timed_update_internal_reason _ _ _ _ _).trans (update_aleg_reason _ _ _)
  · exact refl _

end Cdr.Same

/-! ### The CDRs that are written -/

/-- A CDR that was written, but not as the last one. -/
def Cdr.Posted (cdr : Cdr) : Prop := cdr.writed = true ∧ cdr.is_last = false

/-- The CDRs written later come after those written before. -/
def Writes (before after : List Cdr) : Prop :=
  ∃ new, after = before ++ new ∧ ∀ cdr ∈ new, cdr.Posted

theorem Writes.refl (written : List Cdr) : Writes written written := ⟨[], by simp, by simp⟩

theorem Writes.trans {a b c : List Cdr} (hab : Writes a b) (hbc : Writes b c) : Writes a c := by
  obtain ⟨new, rfl, hnew⟩ := hab
  obtain ⟨new', rfl, hnew'⟩ := hbc
  refine ⟨new ++ new', List.append_assoc .., ?_⟩
  intro cdr hcdr
  exact (List.mem_append.mp hcdr).elim (hnew cdr) (hnew' cdr)

theorem Writes.posted {a b : List Cdr} (h : Writes a b) (ha : ∀ cdr ∈ a, cdr.Posted) :
    ∀ cdr ∈ b, cdr.Posted := by
  obtain ⟨new, rfl, hnew⟩ := h
  intro cdr hcdr
  exact (List.mem_append.mp hcdr).elim (ha cdr) (hnew cdr)

theorem Writes.sublist {a b : List Cdr} (h : Writes a b) : a.Sublist b := by
  obtain ⟨new, rfl, -⟩ := h
  exact List.sublist_append_left a new

theorem write_cdr_unwritten {cdr : Cdr} (h : cdr.writed = false) (written : List Cdr)
    (last : Bool) :
    CallCtx.write_cdr written cdr last = written ++ [{ cdr with writed := true, is_last := last }] := by
  unfold CallCtx.write_cdr
  rw [if_neg (by simp [h])]

theorem Writes.write_cdr (written : List Cdr) (cdr : Cdr) :
    Writes written (CallCtx.write_cdr written cdr false) := by
  unfold CallCtx.write_cdr
  split_ifs
  · exact .refl written
  · refine ⟨_, rfl, ?_⟩
    intro w hw
    rw [List.mem_singleton.mp hw]
    exact ⟨rfl, rfl⟩

/-! ### `CallCtx::getNextProfile` -/

namespace CallCtx

variable {tr : CodesTranslator} {ctx : CallCtx}

variable (tr) in
theorem writes_skipProfile (cdr : Cdr) (p : SqlCallProfile) (s : Skip) :
    Writes s.written (skipProfile tr cdr p s).written := by
  unfold skipProfile
  dsimp only
  split_ifs
  · dsimp only
    exact .write_cdr _ _
  · exact .refl s.written

variable (tr) in
/-- The loop adds CDRs, and stops at an element of the list. -/
theorem writes_skipLoop (cdr : Cdr) (p : SqlCallProfile) (rest : List SqlCallProfile) (s : Skip) :
    Writes s.written (skipLoop tr cdr p rest s).2.written ∧
      ∀ q, (skipLoop tr cdr p rest s).1 = some q →
        ∃ i, (skipLoop tr cdr p rest s).2.moved = s.moved + 1 + i ∧ rest[i]? = some q := by
  have hmoved (p : SqlCallProfile) (s : Skip) : (skipProfile tr cdr p s).moved = s.moved := by
    unfold skipProfile
    dsimp only
    split_ifs <;> rfl
  induction rest generalizing p s with
  | nil => exact ⟨writes_skipProfile tr cdr p s, nofun⟩
  | cons r rest ih =>
    rw [skipLoop]
    by_cases hskip : r.skip_code_id ≠ 0
    · rw [if_pos hskip]
      obtain ⟨hwrites, hfound⟩ :=
        ih r { skipProfile tr cdr p s with moved := (skipProfile tr cdr p s).moved + 1 }
      refine ⟨(writes_skipProfile tr cdr p s).trans hwrites, ?_⟩
      intro q hq
      obtain ⟨i, hi, hget⟩ := hfound q hq
      refine ⟨i + 1, ?_, by simpa using hget⟩
      rw [hi]
      show (skipProfile tr cdr p s).moved + 1 + 1 + i = s.moved + 1 + (i + 1)
      rw [hmoved]
      omega
    · rw [if_neg hskip]
      refine ⟨writes_skipProfile tr cdr p s, ?_⟩
      intro q hq
      refine ⟨0, ?_, by simpa using hq⟩
      show (skipProfile tr cdr p s).moved + 1 = s.moved + 1 + 0
      rw [hmoved]

/-- What `getNextProfile` does to a context whose CDR is not written yet. -/
inductive Next (ctx : CallCtx) (renews : Prop) (ctx' : CallCtx) : Option SqlCallProfile → Prop
  /-- There is no next profile. -/
  | stays (hcurrent : ctx'.current_profile = ctx.current_profile) (hcdr : ctx'.cdr = ctx.cdr) :
      Next ctx renews ctx' none
  /-- The next profile is in use, with its own CDR; when it is renewed, the CDR before it
      was written. -/
  | moves {q : SqlCallProfile} (hlt : ctx.current_profile < ctx'.current_profile)
      (hget : ctx.profiles[ctx'.current_profile]? = some q) (hbill : ctx'.cdr.bill = q.bill)
      (hrenews : renews →
        ((ctx.written ++ [ctx.cdr]).map Cdr.bill).Sublist (ctx'.written.map Cdr.bill)) :
      Next ctx renews ctx' (some q)

theorem takeNext_next (hcdr : ctx.cdr.writed = false) (early_state resource_failover : Bool)
    {q : SqlCallProfile} {s : Skip} (hwrites : Writes ctx.written s.written)
    (hmoved : 0 < s.moved) (hget : ctx.profiles[ctx.current_profile + s.moved]? = some q) :
    (ctx.takeNext early_state resource_failover q s).1.profiles = ctx.profiles ∧
      (ctx.takeNext early_state resource_failover q s).1.cdr.writed = false ∧
      Writes ctx.written (ctx.takeNext early_state resource_failover q s).1.written ∧
      Next ctx (early_state = false ∧ resource_failover = false)
        (ctx.takeNext early_state resource_failover q s).1
        (ctx.takeNext early_state resource_failover q s).2 := by
  have hlt : ctx.current_profile < ctx.current_profile + s.moved := by omega
  unfold takeNext
  split
  · exact ⟨rfl, hcdr, hwrites, .stays rfl rfl⟩
  · dsimp only
    split
    · -- the CDR in use is written, and a new one made
      refine ⟨rfl, rfl, hwrites.trans (.write_cdr _ _), .moves hlt hget rfl fun _ => ?_⟩
      show ((ctx.written ++ [ctx.cdr]).map Cdr.bill).Sublist
        ((CallCtx.write_cdr s.written ctx.cdr false).map Cdr.bill)
      rw [write_cdr_unwritten hcdr, List.map_append, List.map_append]
      exact (hwrites.sublist.map Cdr.bill).append (List.Sublist.refl _)
    · next hrenews =>
      refine ⟨rfl, hcdr, hwrites, .moves hlt hget rfl fun h => ?_⟩
      exact absurd (by simp [h.1, h.2]) hrenews

/-- `getNextProfile` as a whole. -/
theorem getNextProfile_next (tr : CodesTranslator) (ctx : CallCtx) (hcdr : ctx.cdr.writed = false)
    (early_state resource_failover : Bool) :
    (ctx.getNextProfile tr early_state resource_failover).1.profiles = ctx.profiles ∧
      (ctx.getNextProfile tr early_state resource_failover).1.cdr.writed = false ∧
      Writes ctx.written (ctx.getNextProfile tr early_state resource_failover).1.written ∧
      Next ctx (early_state = false ∧ resource_failover = false)
        (ctx.getNextProfile tr early_state resource_failover).1
        (ctx.getNextProfile tr early_state resource_failover).2 := by
  have hstays : ctx.profiles = ctx.profiles ∧ ctx.cdr.writed = false ∧
      Writes ctx.written ctx.written ∧
      Next ctx (early_state = false ∧ resource_failover = false) ctx none :=
    ⟨rfl, hcdr, .refl _, .stays rfl rfl⟩
  unfold getNextProfile
  dsimp only
  split
  · exact hstays
  next p hp =>
    split
    · -- the skipped profiles come first
      have hloop := writes_skipLoop tr ctx.cdr p ctx.following
        { attempts_counter := ctx.cdr.attempt_num, written := ctx.written, moved := 0 }
      split
      next q s heq =>
        rw [heq] at hloop
        obtain ⟨i, hi, hget⟩ := hloop.2 q rfl
        apply takeNext_next hcdr early_state resource_failover hloop.1
        · have hi' : s.moved = 0 + 1 + i := hi
          omega
        · have hi' : s.moved = 0 + 1 + i := hi
          rw [← hget, following, List.getElem?_drop, hi']
          congr 1
          omega
      next s heq =>
        rw [heq] at hloop
        exact ⟨rfl, hcdr, hloop.1, .stays rfl rfl⟩
    · split
      · exact hstays
      next q rest hq =>
        have hget : ctx.following[0]? = some q := by rw [hq]; rfl
        rw [following, List.getElem?_drop] at hget
        exact takeNext_next hcdr early_state resource_failover (.refl _) Nat.one_pos hget

end CallCtx

/-! ### Routing -/

namespace CallCtx

/-- The CDR in use is that of the profile in use and not written yet, and only such CDRs
    were written that are not the last one. -/
structure Billed (ctx : CallCtx) : Prop where
  profile : ∃ p, ctx.getCurrentProfile = some p ∧ ctx.cdr.bill = p.bill
  unwritten : ctx.cdr.writed = false
  posted : ∀ cdr ∈ ctx.written, cdr.Posted

/-- A new context. -/
theorem Billed.first (p : SqlCallProfile) (rest : List SqlCallProfile) :
    Billed { profiles := p :: rest, current_profile := 0, cdr := .ofProfile p } where
  profile := ⟨p, rfl, rfl⟩
  unwritten := rfl
  posted _ hcdr := absurd hcdr List.not_mem_nil

end CallCtx

/-- The AoR lookup does not change what is billed for the first profile. -/
theorem resolveLoop_head (up : UriParser) (aors : List (Int × AorList)) (p : SqlCallProfile)
    (profiles : List SqlCallProfile) :
    ∃ p' profiles', resolveLoop up aors (p :: profiles) = p' :: profiles' ∧ p'.bill = p.bill := by
  rw [resolveLoop]
  split_ifs
  · exact ⟨p, _, rfl, rfl⟩
  · cases aors.lookup p.registered_aor_id with
    | none => exact ⟨_, _, rfl, rfl⟩
    | some aors_list => exact ⟨_, _, rfl, rfl⟩

/-- A profile that is not passed over gets a CDR of its own. -/
theorem passOver_billed {tr : CodesTranslator} {p : SqlCallProfile} {rest : List SqlCallProfile}
    {ctx ctx' : CallCtx} (hfollowing : ctx.following = rest)
    (hposted : ∀ cdr ∈ ctx.written, cdr.Posted) (h : passOver tr p rest ctx = .proceed ctx') :
    ctx'.Billed := by
  induction rest generalizing p ctx with
  | nil => cases h
  | cons q rest ih =>
    rw [passOver] at h
    split_ifs at h with hrefuse hskip
    all_goals
      have hget : ctx.profiles[ctx.current_profile + 1]? = some q :=
        (CallCtx.following_cons hfollowing).1
      have hposted' := (Writes.write_cdr ctx.written (passedCdr tr p ctx.cdr)).posted hposted
    · refine ih ?_ hposted' h
      exact (CallCtx.following_cons hfollowing).2
    · obtain rfl := Resolved.proceed.inj h
      exact ⟨⟨q, hget, rfl⟩, rfl, hposted'⟩

/-- The context with which the routing of a call ends. -/
theorem Routed.billed {up : UriParser} {tr : CodesTranslator} {ctx : CallCtx}
    (h : Routed up tr ctx) : ctx.Billed := by
  have hfirst : ∀ (profiles : List SqlCallProfile) (ctx : CallCtx),
      CallCtx.getFirstProfile profiles = some ctx →
        ∃ p rest, ctx = { profiles := p :: rest, current_profile := 0, cdr := .ofProfile p } := by
    intro profiles ctx hfound
    cases profiles with
    | nil => cases hfound
    | cons p rest =>
      simp only [CallCtx.getFirstProfile, Option.some.injEq] at hfound
      exact ⟨p, rest, hfound.symm⟩
  cases h with
  | @first profiles _ hfound =>
    obtain ⟨p, rest, rfl⟩ := hfirst profiles ctx hfound
    exact .first p rest
  | @resolved profiles ctx₀ _ success data hfound hreply =>
    obtain ⟨p, rest, rfl⟩ := hfirst profiles ctx₀ hfound
    obtain ⟨aors, -, heq⟩ := Option.map_eq_some_iff.mp hreply
    obtain ⟨p', rest', hloop, hbill⟩ := resolveLoop_head up aors p rest
    have hnone : resolveLoop up aors [] = [] := rfl
    simp only [List.take_zero, hloop, hnone, List.length_nil] at heq
    have hcurrent : CallCtx.getCurrentProfile
        { profiles := p' :: rest', current_profile := 0, cdr := .ofProfile p } = some p' := rfl
    rw [hcurrent] at heq
    dsimp only at heq
    split_ifs at heq with hskip
    · exact passOver_billed rfl (fun cdr hcdr => absurd hcdr List.not_mem_nil) heq
    · obtain rfl := Resolved.proceed.inj heq
      have hcdr : (Cdr.ofProfile p).bill = p'.bill := hbill.symm
      exact ⟨⟨p', rfl, hcdr⟩, rfl, fun cdr hcdr => absurd hcdr List.not_mem_nil⟩

/-! ### Contexts of calls that are hunting -/

namespace RefusalCtx

/-- The CDR in use is that of the profile in use and not written yet, and only such CDRs
    were written that are not the last one. -/
structure Billed (c : RefusalCtx) : Prop where
  profile : ∃ p, c.getCurrentProfile = some p ∧ c.cdr.bill = p.bill
  unwritten : c.cdr.writed = false
  posted : ∀ cdr ∈ c.written, cdr.Posted

/-- What the CDRs of the call bill, the one in use last. -/
def bills (c : RefusalCtx) : List Bill := (c.written ++ [c.cdr.toCdr]).map Cdr.bill

/-- The context `c'` may come of `c` while the call is hunting. -/
structure Later (c c' : RefusalCtx) : Prop where
  length : c'.profiles.length = c.profiles.length
  le : c.current_profile ≤ c'.current_profile
  writes : Writes c.written c'.written

theorem Later.refl (c : RefusalCtx) : c.Later c := ⟨rfl, Nat.le_refl _, .refl _⟩

theorem Later.trans {a b c : RefusalCtx} (hab : a.Later b) (hbc : b.Later c) : a.Later c :=
  ⟨hbc.length.trans hab.length, Nat.le_trans hab.le hbc.le, hab.writes.trans hbc.writes⟩

variable {c : RefusalCtx}

theorem getCurrentProfile_lt {p : SqlCallProfile} (h : c.getCurrentProfile = some p) :
    c.current_profile < c.profiles.length :=
  (List.getElem?_eq_some_iff.mp h).1

/-- A CDR that records more is still that of the profile. -/
theorem Billed.record (h : c.Billed) {cdr : ReplyCdr} (hsame : c.cdr.toCdr.Same cdr.toCdr) :
    Billed { c with cdr := cdr } := by
  obtain ⟨p, hp, hbill⟩ := h.profile
  exact ⟨⟨p, hp, hsame.bill.trans hbill⟩, hsame.writed.trans h.unwritten, h.posted⟩

theorem bills_record (c : RefusalCtx) {cdr : ReplyCdr} (hsame : c.cdr.toCdr.Same cdr.toCdr) :
    bills { c with cdr := cdr } = c.bills := by
  show (c.written ++ [cdr.toCdr]).map Cdr.bill = (c.written ++ [c.cdr.toCdr]).map Cdr.bill
  rw [List.map_append, List.map_append, List.map_singleton, List.map_singleton, hsame.bill]

/-- The profile in use remembers its handler. -/
theorem Billed.setHandler (h : c.Billed) {p : SqlCallProfile} (hp : c.getCurrentProfile = some p)
    (handler : String) :
    Billed { c with
        profiles := c.profiles.set c.current_profile { p with resource_handler := handler } } ∧
      getCurrentProfile { c with
        profiles := c.profiles.set c.current_profile { p with resource_handler := handler } } =
        some { p with resource_handler := handler } := by
  obtain ⟨q, hq, hbill⟩ := h.profile
  obtain rfl : q = p := Option.some_inj.mp (hq.symm.trans hp)
  have hset : getCurrentProfile { c with
      profiles := c.profiles.set c.current_profile { q with resource_handler := handler } } =
      some { q with resource_handler := handler } :=
    List.getElem?_set_self (getCurrentProfile_lt hp)
  exact ⟨⟨⟨_, hset, hbill⟩, h.unwritten, h.posted⟩, hset⟩

/-- What `getNextProfile` does to the context of a hunting call. -/
structure Advances (c : RefusalCtx) (renews : Prop) (r : RefusalCtx × Option SqlCallProfile) :
    Prop where
  billed : r.1.Billed
  later : c.Later r.1
  /-- Without a next profile the CDR in use stays. -/
  stays : r.2 = none → r.1.cdr = c.cdr
  moves : ∀ q, r.2 = some q →
    c.current_profile < r.1.current_profile ∧ r.1.getCurrentProfile = some q ∧
      (renews → c.bills.Sublist (r.1.written.map Cdr.bill))

theorem getNextProfile_advances (tr : CodesTranslator) (h : c.Billed)
    (early_state resource_failover : Bool) :
    c.Advances (early_state = false ∧ resource_failover = false)
      (c.getNextProfile tr early_state resource_failover) := by
  obtain ⟨hprofiles, hcdr, hwrites, hnext⟩ :=
    CallCtx.getNextProfile_next tr c.callCtx h.unwritten early_state resource_failover
  obtain ⟨p, hp, hbill⟩ := h.profile
  have hposted := hwrites.posted h.posted
  unfold getNextProfile
  generalize c.callCtx.getNextProfile tr early_state resource_failover = r at *
  obtain ⟨ctx, found⟩ := r
  dsimp only at *
  cases hnext with
  | stays hcurrent hsame =>
    have hcdr' : ({ c.cdr with toCdr := ctx.cdr } : ReplyCdr) = c.cdr := by rw [hsame]; rfl
    simp only [Option.isSome_none, Bool.false_and, Bool.false_eq_true, if_false, hcdr']
    have hcurrent' : ctx.current_profile = c.current_profile := hcurrent
    refine ⟨⟨⟨p, ?_, hbill⟩, h.unwritten, hposted⟩, ⟨rfl, Nat.le_of_eq hcurrent.symm, hwrites⟩,
      fun _ => rfl, nofun⟩
    show c.profiles[ctx.current_profile]? = some p
    rw [hcurrent']
    exact hp
  | @moves q hlt hget hmoved hrenews =>
    have hunwritten : ∀ renew : Bool, (if renew then
        ({ toCdr := ctx.cdr, start_time := c.cdr.start_time,
           end_time := c.cdr.start_time } : ReplyCdr)
        else { c.cdr with toCdr := ctx.cdr }).toCdr = ctx.cdr := by
      intro renew
      cases renew <;> rfl
    refine ⟨⟨⟨q, hget, ?_⟩, ?_, hposted⟩, ⟨rfl, Nat.le_of_lt hlt, hwrites⟩, nofun, ?_⟩
    · dsimp only
      rw [hunwritten]
      exact hmoved
    · dsimp only
      rw [hunwritten]
      exact hcdr
    · intro q' hq'
      obtain rfl : q = q' := Option.some_inj.mp hq'
      exact ⟨hlt, hget, hrenews⟩

end RefusalCtx

/-! ### The loops -/

namespace SbcState

open RefusalCtx

/-- What a search for a profile leaves behind: `found` is in use. -/
structure Finds (c : RefusalCtx) (r : SbcState × Option SqlCallProfile) (c' : RefusalCtx) :
    Prop where
  ctx : r.1.call_ctx = some c'
  billed : c'.Billed
  later : c.Later c'
  found : ∀ p, r.2 = some p → c'.getCurrentProfile = some p

variable {c : RefusalCtx}

/-- The search goes on from a later context. -/
theorem Finds.later_trans {a b c' : RefusalCtx} {r : SbcState × Option SqlCallProfile}
    (hab : a.Later b) (h : Finds b r c') : Finds a r c' :=
  ⟨h.ctx, h.billed, hab.trans h.later, h.found⟩

theorem finds_fail (env : RefusalEnv) (s : SbcState) (h : c.Billed) (profile : SqlCallProfile) :
    ∃ c', Finds c (s.fail env c profile, none) c' ∧ c.bills = c'.bills := by
  have hsame := Cdr.Same.timed_update_internal_reason c.cdr.toTimedCdr .DisconnectByTS
    (env.failure profile).1 (env.failure profile).2 env.now
  exact ⟨_, ⟨rfl, h.record hsame, ⟨rfl, Nat.le_refl _, .refl _⟩, nofun⟩,
    (bills_record c hsame).symm⟩

theorem finds_caught (env : RoutingEnv) (s : SbcState) {c' : RefusalCtx}
    (h : Finds c (s, none) c') (reason : String) (code : Int) :
    ∃ c'', Finds c (s.caught env reason code, none) c'' ∧ c'.bills = c''.bills := by
  have hsame : c'.cdr.toCdr.Same
      (c'.cdr.update_internal_reason .DisconnectByTS reason code env.now).toCdr :=
    Cdr.Same.timed_update_internal_reason _ _ _ _ _
  refine ⟨_, ⟨?_, h.billed.record hsame, ?_, nofun⟩, (bills_record c' hsame).symm⟩
  · have hctx : s.call_ctx = some c' := h.ctx
    show s.call_ctx.map _ = _
    rw [hctx]
    rfl
  · exact ⟨h.later.length, h.later.le, h.later.writes⟩

/-- The resources of the profile in use are had. -/
theorem finds_ok (s : SbcState) (h : c.Billed) {profile : SqlCallProfile}
    (hp : c.getCurrentProfile = some profile) (handler : String) (handlers : List String) :
    ∃ c', Finds c ({ s with
        call_ctx := some { c with
          profiles := c.profiles.set c.current_profile { profile with resource_handler := handler } }
        handlers := handlers }, some { profile with resource_handler := handler }) c' := by
  obtain ⟨hbilled, hset⟩ := h.setHandler hp handler
  refine ⟨_, ⟨rfl, hbilled, ⟨List.length_set, Nat.le_refl _, .refl _⟩, ?_⟩⟩
  intro p hfound
  rw [hset]
  exact hfound

/-- The loop of `chooseNextProfile` ends with the profile in use, or with none. -/
theorem finds_chooseLoop (env : RefusalEnv) (fuel : Nat) (s : SbcState) (h : c.Billed)
    {profile : SqlCallProfile} (hp : c.getCurrentProfile = some profile) :
    ∃ c', Finds c (s.chooseLoop env fuel c profile) c' := by
  induction fuel generalizing c profile with
  | zero =>
    obtain ⟨c', hc', -⟩ := finds_fail env s h profile
    exact ⟨c', hc'⟩
  | succ fuel ih =>
    obtain ⟨cfail, hfail, -⟩ := finds_fail env s h profile
    unfold chooseLoop
    split
    · have hsame := Cdr.Same.check_and_refuse env c.cdr profile
      obtain ⟨c', hc', -⟩ := finds_fail env s (h.record hsame) profile
      have hlater : c.Later { c with cdr := check_and_refuse env c.cdr profile } :=
        ⟨rfl, Nat.le_refl _, .refl _⟩
      exact ⟨c', hc'.later_trans hlater⟩
    split
    · exact finds_ok s h hp _ _
    · exact ⟨cfail, hfail⟩
    · exact ⟨cfail, hfail⟩
    · have hnext := getNextProfile_advances env.tr h false true
      split
      next c₁ heq =>
        rw [heq] at hnext
        obtain ⟨c', hc', -⟩ := finds_fail env s hnext.billed profile
        exact ⟨c', hc'.later_trans hnext.later⟩
      next c₁ q heq =>
        rw [heq] at hnext
        split
        · obtain ⟨c', hc', -⟩ := finds_fail env s hnext.billed profile
          exact ⟨c', hc'.later_trans hnext.later⟩
        · obtain ⟨-, hget, -⟩ := hnext.moves q rfl
          obtain ⟨c', hc'⟩ := ih hnext.billed hget
          exact ⟨c', hc'.later_trans hnext.later⟩

/-- The loop of `processResourcesAndSdp` does, too. -/
theorem finds_processLoop (env : RoutingEnv) (fuel : Nat) (s : SbcState) (h : c.Billed)
    {profile : SqlCallProfile} (hp : c.getCurrentProfile = some profile) :
    ∃ c', Finds c (s.processLoop env fuel c profile) c' := by
  induction fuel generalizing c profile with
  | zero =>
    obtain ⟨c', hc', -⟩ := finds_fail env.toRefusalEnv s h profile
    exact ⟨c', hc'⟩
  | succ fuel ih =>
    -- an exception is thrown, from the context `b`
    have hrefuse (b : RefusalCtx) (hb : b.Billed) (hlater : c.Later b) :
        ∃ c', Finds c ((s.fail env.toRefusalEnv b profile).caught env (env.response profile).1
          (env.response profile).2, none) c' := by
      obtain ⟨b', hb', -⟩ := finds_fail env.toRefusalEnv s hb profile
      obtain ⟨c', hc', -⟩ := finds_caught env _ (hb'.later_trans hlater) (env.response profile).1
        (env.response profile).2
      exact ⟨c', hc'⟩
    unfold processLoop
    dsimp only
    split
    · exact finds_ok s h hp _ _
    · exact hrefuse c h (.refl c)
    · exact hrefuse c h (.refl c)
    · have hnext := getNextProfile_advances env.tr h true false
      split
      next c₁ heq =>
        rw [heq] at hnext
        have hfinds : Finds c ({ s with call_ctx := some c₁ }, none) c₁ :=
          ⟨rfl, hnext.billed, hnext.later, nofun⟩
        obtain ⟨c', hc', -⟩ := finds_caught env _ hfinds "no more profiles" 503
        exact ⟨c', hc'⟩
      next c₁ q heq =>
        rw [heq] at hnext
        split
        · exact hrefuse c₁ hnext.billed hnext.later
        · obtain ⟨-, hget, -⟩ := hnext.moves q rfl
          obtain ⟨c', hc'⟩ := ih hnext.billed hget
          exact ⟨c', hc'.later_trans hnext.later⟩

/-- `chooseNextProfile`: the next profile comes later, and the CDR before it was written. -/
theorem finds_chooseNextProfile (env : RefusalEnv) (s : SbcState) (h : c.Billed) :
    ∃ c', Finds c (s.chooseNextProfile env c) c' ∧ c.bills.Sublist c'.bills ∧
      ((s.chooseNextProfile env c).2 ≠ none → c.current_profile < c'.current_profile ∧
        c.bills.Sublist (c'.written.map Cdr.bill)) := by
  have hnext := getNextProfile_advances env.tr h false false
  unfold chooseNextProfile
  split
  next c₁ heq =>
    rw [heq] at hnext
    refine ⟨c₁, ⟨rfl, hnext.billed, hnext.later, nofun⟩, ?_, fun hne => absurd rfl hne⟩
    have hcdr : c₁.cdr = c.cdr := hnext.stays rfl
    unfold bills
    rw [hcdr, List.map_append, List.map_append]
    exact (hnext.later.writes.sublist.map Cdr.bill).append (List.Sublist.refl _)
  next c₁ q heq =>
    rw [heq] at hnext
    obtain ⟨hlt, hget, hrenews⟩ := hnext.moves q rfl
    obtain ⟨c', hc'⟩ := finds_chooseLoop env c.profiles.length s hnext.billed hget
    have hlen : c₁.profiles.length = c.profiles.length := hnext.later.length
    have hwritten : c.bills.Sublist (c'.written.map Cdr.bill) :=
      (hrenews ⟨rfl, rfl⟩).trans (hc'.later.writes.sublist.map Cdr.bill)
    rw [hlen]
    refine ⟨c', hc'.later_trans hnext.later, ?_, fun _ => ⟨?_, hwritten⟩⟩
    · unfold bills at hwritten ⊢
      rw [List.map_append] at hwritten ⊢
      rw [List.map_append]
      exact hwritten.trans (List.sublist_append_left _ _)
    · exact Nat.lt_of_lt_of_le hlt hc'.later.le

end SbcState

end Yeti.Call
