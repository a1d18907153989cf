import Yeti.Framework.Lists
import Yeti.Call.Profile

/-! # Who ended the call

    A CDR records who ended the call, with a code and a reason.  The functions of
    `Cdr` set the three together and once, guarded by `disconnect_initiator_writed`.
    `SBCCallLeg::onInviteException` writes the fields directly: the initiator always,
    code and reason only while the code is 0, and the guard not at all.
-/

namespace Yeti.Call

/-! ### The CDR with its times -/

/-- `enum UpdateAction`. -/
inductive UpdateAction where
  | Start
  | BLegInvite
  | Connect
  | BlegConnect
  | End
  deriving DecidableEq, Repr

/-- `struct Cdr` with its times and the reason of the B leg.  A time that is not set
    is 0. -/
structure TimedCdr extends Cdr where
  disconnect_reason : String := ""
  disconnect_code : Int := 0
  bleg_reason_writed : Bool := false
  start_time : Nat := 0
  bleg_invite_time : Nat := 0
  connect_time : Nat := 0
  bleg_connect_time : Nat := 0
  end_time : Nat := 0
  deriving DecidableEq, Repr

namespace TimedCdr

/-- `Cdr::update_with_action`, at the time `now`. -/
def update_with_action (cdr : TimedCdr) (act : UpdateAction) (now : Nat) : TimedCdr :=
  if cdr.writed then cdr
  else
    match act with
    | .Start => { cdr with start_time := now, end_time := now }
    | .BLegInvite => if cdr.bleg_invite_time = 0 then { cdr with bleg_invite_time := now } else cdr
    -- a call that has ended is not connected any more
    | .Connect => if cdr.start_time = cdr.end_time then { cdr with connect_time := now } else cdr
    | .BlegConnect => { cdr with bleg_connect_time := now }
    | .End => if cdr.start_time = cdr.end_time then { cdr with end_time := now } else cdr

/-- `Cdr::update_bleg_reason`. -/
def update_bleg_reason (cdr : TimedCdr) (reason : String) (code : Int) : TimedCdr :=
  if cdr.writed then cdr
  else if cdr.bleg_reason_writed then cdr
  else { cdr with disconnect_reason := reason, disconnect_code := code, bleg_reason_writed := true }

/-- `Cdr::update_aleg_reason`. -/
def update_aleg_reason (cdr : TimedCdr) (reason : String) (code : Int) : TimedCdr :=
  { cdr with toCdr := cdr.toCdr.update_aleg_reason reason code }

/-- `Cdr::update_internal_reason`, which also ends the call. -/
def update_internal_reason (cdr : TimedCdr) (initiator : DisconnectInitiator) (reason : String)
    (code : Int) (now : Nat) : TimedCdr :=
  let cdr := cdr.update_with_action .End now
  { cdr with toCdr := cdr.toCdr.update_internal_reason initiator reason code }

/-- `SBCCallLeg::onInviteException` on the CDR of the call. -/
def onInviteException (cdr : TimedCdr) (code : Int) (reason : String) (no_reply : Bool) :
    TimedCdr :=
  let cdr := { cdr with disconnect_initiator := .DisconnectByTS }
  let cdr :=
    -- update only if it was not set before
    if cdr.disconnect_internal_code = 0 then
      { cdr with disconnect_internal_code := code, disconnect_internal_reason := reason }
    else cdr
  if no_reply then cdr
  else { cdr with disconnect_rewrited_code := code, disconnect_rewrited_reason := reason }

end TimedCdr

/-! ### Events -/

/-- Calls that may set reasons of a CDR. -/
inductive CdrEvent where
  | update_internal_reason (initiator : DisconnectInitiator) (reason : String) (code : Int)
      (now : Nat)
  | update_aleg_reason (reason : String) (code : Int)
  | update_bleg_reason (reason : String) (code : Int)
  | update_with_action (act : UpdateAction) (now : Nat)
  | onInviteException (code : Int) (reason : String) (no_reply : Bool)
  deriving DecidableEq, Repr

/-- Who ended the call, with code and reason. -/
structure Cause where
  disconnect_initiator : DisconnectInitiator
  disconnect_internal_code : Int
  disconnect_internal_reason : String
  deriving DecidableEq, Repr

namespace CdrEvent

/-- The event on a CDR. -/
def apply (cdr : TimedCdr) : CdrEvent → TimedCdr
  | .update_internal_reason initiator reason code now =>
    cdr.update_internal_reason initiator reason code now
  | .update_aleg_reason reason code => cdr.update_aleg_reason reason code
  | .update_bleg_reason reason code => cdr.update_bleg_reason reason code
  | .update_with_action act now => cdr.update_with_action act now
  | .onInviteException code reason no_reply => cdr.onInviteException code reason no_reply

/-- The cause that `update_internal_reason` brings. -/
def internal : CdrEvent → Option Cause
  | .update_internal_reason initiator reason code _ => some ⟨initiator, code, reason⟩
  | _ => none

/-- The cause that an event brings. -/
def supplied : CdrEvent → Option Cause
  | .update_internal_reason initiator reason code _ => some ⟨initiator, code, reason⟩
  | .onInviteException code reason _ => some ⟨.DisconnectByTS, code, reason⟩
  | _ => none

/-- An exception that leaves the recorded cause as it is. -/
def AgreesWith (cause : Cause) : CdrEvent → Prop
  | .onInviteException code reason _ =>
    cause.disconnect_initiator = .DisconnectByTS ∧
      (cause.disconnect_internal_code ≠ 0 ∨
        code = 0 ∧ reason = cause.disconnect_internal_reason)
  | _ => True

/-- All events leave the cause of the first one that brings one as it is: the
    exceptions agree with it, and after an exception the first internal reason
    repeats it. -/
def Agreeing : List CdrEvent → Prop
  | [] => True
  | .update_internal_reason initiator reason code _ :: later =>
    ∀ e ∈ later, e.AgreesWith ⟨initiator, code, reason⟩
  | .onInviteException code reason _ :: later =>
    (∀ e ∈ later, e.AgreesWith ⟨.DisconnectByTS, code, reason⟩) ∧
      ∀ c ∈ later.findSome? internal, c = ⟨.DisconnectByTS, code, reason⟩
  | _ :: later => Agreeing later

end CdrEvent

namespace TimedCdr

/-- The cause that a CDR records. -/
def cause (cdr : TimedCdr) : Cause :=
  ⟨cdr.disconnect_initiator, cdr.disconnect_internal_code, cdr.disconnect_internal_reason⟩

/-- A CDR that is in use and has no cause yet, as both constructors leave it. -/
structure Fresh (cdr : TimedCdr) : Prop where
  unwritten : cdr.writed = false
  open_cause : cdr.disconnect_initiator_writed = false
  no_code : cdr.disconnect_internal_code = 0

/-- At any time the CDR records the cause of the first event that brought one. -/
def KeepsCause (cdr : TimedCdr) (events : List CdrEvent) : Prop :=
  ∀ past, past <+: events →
    (past.foldl CdrEvent.apply cdr).cause = (past.findSome? CdrEvent.supplied).getD cdr.cause

/-! ### One event -/

variable {cdr : TimedCdr}

theorem toCdr_update_with_action (act : UpdateAction) (now : Nat) :
    (cdr.update_with_action act now).toCdr = cdr.toCdr := by
  unfold update_with_action
  cases act <;> split_ifs <;> rfl

theorem toCdr_update_bleg_reason (reason : String) (code : Int) :
    (cdr.update_bleg_reason reason code).toCdr = cdr.toCdr := by
  unfold update_bleg_reason
  split_ifs <;> rfl

/-- The fields of the CDR that the recorded cause depends on. -/
def guarded (cdr : TimedCdr) : Bool × Bool × Cause :=
  (cdr.writed, cdr.disconnect_initiator_writed, cdr.cause)

theorem guarded_of_toCdr {cdr cdr' : TimedCdr} (h : cdr'.toCdr = cdr.toCdr) :
    cdr'.guarded = cdr.guarded := by
  unfold guarded cause
  rw [h]

theorem guarded_update_aleg_reason (reason : String) (code : Int) :
    (cdr.update_aleg_reason reason code).guarded = cdr.guarded := by
  unfold update_aleg_reason Cdr.update_aleg_reason
  split_ifs <;> rfl

/-- An internal reason is taken once. -/
theorem guarded_update_internal_reason (hcdr : cdr.writed = false) (initiator : DisconnectInitiator)
    (reason : String) (code : Int) (now : Nat) :
    (CdrEvent.apply cdr (.update_internal_reason initiator reason code now)).guarded =
      (false, true,
        if cdr.disconnect_initiator_writed then cdr.cause else ⟨initiator, code, reason⟩) := by
  show (cdr.update_internal_reason initiator reason code now).guarded = _
  unfold update_internal_reason guarded cause Cdr.update_internal_reason
  simp only [toCdr_update_with_action, hcdr]
  cases hguard : cdr.disconnect_initiator_writed <;> cases haleg : cdr.aleg_reason_writed <;>
    simp [hcdr, hguard, haleg]

variable (cdr) in
/-- An exception sets the initiator, and code and reason if there was no code. -/
theorem guarded_onInviteException (code : Int) (reason : String) (no_reply : Bool) :
    (CdrEvent.apply cdr (.onInviteException code reason no_reply)).guarded =
      (cdr.writed, cdr.disconnect_initiator_writed,
        if cdr.disconnect_internal_code = 0 then ⟨.DisconnectByTS, code, reason⟩
        else { cdr.cause with disconnect_initiator := .DisconnectByTS }) := by
  show (cdr.onInviteException code reason no_reply).guarded = _
  unfold onInviteException guarded cause
  by_cases hcode : cdr.disconnect_internal_code = 0 <;> cases no_reply <;> simp [hcode]

variable (cdr) in
/-- An event that brings no cause leaves what is recorded. -/
theorem guarded_of_not_supplied {e : CdrEvent} (he : e.supplied = none) :
    (e.apply cdr).guarded = cdr.guarded := by
  cases e with
  | update_internal_reason => cases he
  | update_aleg_reason reason code => exact guarded_update_aleg_reason reason code
  | update_bleg_reason reason code => exact guarded_of_toCdr (toCdr_update_bleg_reason reason code)
  | update_with_action act now => exact guarded_of_toCdr (toCdr_update_with_action act now)
  | onInviteException => cases he

theorem writed_of_guarded {w f : Bool} {c : Cause} (h : cdr.guarded = (w, f, c)) :
    cdr.writed = w := congrArg (·.1) h

theorem initiator_writed_of_guarded {w f : Bool} {c : Cause} (h : cdr.guarded = (w, f, c)) :
    cdr.disconnect_initiator_writed = f := congrArg (·.2.1) h

theorem cause_of_guarded {w f : Bool} {c : Cause} (h : cdr.guarded = (w, f, c)) :
    cdr.cause = c := congrArg (·.2.2) h

/-- An exception leaves the recorded cause exactly if it agrees with it. -/
theorem onInviteException_agrees (code : Int) (reason : String) (no_reply : Bool) :
    (CdrEvent.apply cdr (.onInviteException code reason no_reply)).cause = cdr.cause ↔
      (CdrEvent.onInviteException code reason no_reply).AgreesWith cdr.cause := by
  rw [cause_of_guarded (guarded_onInviteException cdr code reason no_reply)]
  unfold CdrEvent.AgreesWith cause
  by_cases hcode : cdr.disconnect_internal_code = 0
  · simp only [hcode, if_true, Cause.mk.injEq, ne_eq, not_true_eq_false, false_or]
    constructor
    · intro ⟨hts, hzero, hreason⟩
      exact ⟨hts.symm, hzero, hreason⟩
    · intro ⟨hts, hzero, hreason⟩
      exact ⟨hts.symm, hzero, hreason⟩
  · simp only [hcode, if_false, Cause.mk.injEq, and_true, ne_eq, not_false_eq_true, true_or]
    exact eq_comm

theorem agreesWith_of_not_supplied {e : CdrEvent} {c : Cause} (he : e.supplied = none) :
    e.AgreesWith c := by
  cases e with
  | onInviteException => cases he
  | _ => trivial

theorem internal_of_not_supplied {e : CdrEvent} (he : e.supplied = none) : e.internal = none := by
  cases e with
  | update_internal_reason => cases he
  | _ => rfl

theorem agreeing_cons_none {e : CdrEvent} (he : e.supplied = none) (events : List CdrEvent) :
    CdrEvent.Agreeing (e :: events) ↔ CdrEvent.Agreeing events := by
  cases e with
  | update_internal_reason => cases he
  | onInviteException => cases he
  | _ => rfl

/-- Two kinds of events bring a cause; that of an exception names the switch. -/
theorem eq_of_supplied {e : CdrEvent} {c : Cause} (he : e.supplied = some c) :
    (∃ now, e = .update_internal_reason c.disconnect_initiator c.disconnect_internal_reason
        c.disconnect_internal_code now) ∨
      ∃ no_reply, c.disconnect_initiator = .DisconnectByTS ∧
        e = .onInviteException c.disconnect_internal_code c.disconnect_internal_reason no_reply := by
  cases e with
  | update_internal_reason initiator reason code now =>
    cases he
    exact .inl ⟨now, rfl⟩
  | onInviteException code reason no_reply =>
    cases he
    exact .inr ⟨no_reply, rfl, rfl⟩
  | _ => cases he

/-! ### All events -/

/-- The recorded cause stays through all events. -/
def Stays (cdr : TimedCdr) (events : List CdrEvent) : Prop :=
  ∀ past, past <+: events → (past.foldl CdrEvent.apply cdr).cause = cdr.cause

theorem stays_nil : cdr.Stays [] := by
  intro past hpast
  rw [List.prefix_nil.mp hpast]
  rfl

theorem stays_cons (e : CdrEvent) (events : List CdrEvent) :
    cdr.Stays (e :: events) ↔ (e.apply cdr).cause = cdr.cause ∧ (e.apply cdr).Stays events := by
  unfold Stays
  rw [List.forall_prefix_cons]
  constructor
  · rintro ⟨-, hcons⟩
    have hfirst : (e.apply cdr).cause = cdr.cause := hcons [] List.nil_prefix
    refine ⟨hfirst, ?_⟩
    intro past hpast
    rw [hfirst]
    exact hcons past hpast
  · intro ⟨hfirst, hcons⟩
    refine ⟨rfl, ?_⟩
    intro past hpast
    rw [List.foldl_cons, hcons past hpast, hfirst]

/-- Once the guard is set only an exception can change the cause. -/
theorem stays_guarded (hcdr : cdr.writed = false) (hguard : cdr.disconnect_initiator_writed = true)
    (events : List CdrEvent) :
    cdr.Stays events ↔ ∀ e ∈ events, e.AgreesWith cdr.cause := by
  induction events generalizing cdr with
  | nil => simp [stays_nil]
  | cons e events ih =>
    rw [stays_cons, List.forall_mem_cons]
    cases hsupplied : e.supplied with
    | none =>
      have hguarded := guarded_of_not_supplied cdr hsupplied
      have hcause := cause_of_guarded hguarded
      have hrest := ih ((writed_of_guarded hguarded).trans hcdr)
        ((initiator_writed_of_guarded hguarded).trans hguard)
      rw [hcause] at hrest ⊢
      exact and_congr (iff_of_true rfl (agreesWith_of_not_supplied hsupplied)) hrest
    | some c =>
      rcases eq_of_supplied hsupplied with ⟨now, rfl⟩ | ⟨no_reply, hts, rfl⟩
      · have hguarded := guarded_update_internal_reason hcdr c.disconnect_initiator
          c.disconnect_internal_reason c.disconnect_internal_code now
        rw [if_pos hguard] at hguarded
        have hcause := cause_of_guarded hguarded
        have hrest := ih (writed_of_guarded hguarded) (initiator_writed_of_guarded hguarded)
        rw [hcause] at hrest
        exact and_congr (iff_of_true hcause trivial) hrest
      · have hguarded := guarded_onInviteException cdr c.disconnect_internal_code
          c.disconnect_internal_reason no_reply
        have hrest := ih ((writed_of_guarded hguarded).trans hcdr)
          ((initiator_writed_of_guarded hguarded).trans hguard)
        rw [← onInviteException_agrees]
        apply and_congr_right
        intro hcause
        rw [hcause] at hrest
        exact hrest

/-- Before the guard is set the first internal reason replaces the cause. -/
theorem stays_unguarded (hcdr : cdr.writed = false)
    (hguard : cdr.disconnect_initiator_writed = false) (events : List CdrEvent) :
    cdr.Stays events ↔ (∀ e ∈ events, e.AgreesWith cdr.cause) ∧
      ∀ c ∈ events.findSome? CdrEvent.internal, c = cdr.cause := by
  induction events generalizing cdr with
  | nil => simp [stays_nil]
  | cons e events ih =>
    rw [stays_cons, List.forall_mem_cons]
    cases hsupplied : e.supplied with
    | none =>
      have hguarded := guarded_of_not_supplied cdr hsupplied
      have hcause := cause_of_guarded hguarded
      have hrest := ih ((writed_of_guarded hguarded).trans hcdr)
        ((initiator_writed_of_guarded hguarded).trans hguard)
      rw [hcause] at hrest ⊢
      rw [List.findSome?_cons_of_isNone (by rw [internal_of_not_supplied hsupplied]; rfl), hrest]
      simp [agreesWith_of_not_supplied hsupplied]
    | some c =>
      rcases eq_of_supplied hsupplied with ⟨now, rfl⟩ | ⟨no_reply, hts, rfl⟩
      · have hguarded := guarded_update_internal_reason hcdr c.disconnect_initiator
          c.disconnect_internal_reason c.disconnect_internal_code now
        rw [if_neg (by simp [hguard])] at hguarded
        have hcause := cause_of_guarded hguarded
        have hrest := stays_guarded (writed_of_guarded hguarded)
          (initiator_writed_of_guarded hguarded) events
        have hfirst : (CdrEvent.update_internal_reason c.disconnect_initiator
            c.disconnect_internal_reason c.disconnect_internal_code now :: events).findSome?
              CdrEvent.internal = some c := rfl
        rw [hfirst, hrest, hcause]
        constructor
        · intro ⟨hsame, hagrees⟩
          refine ⟨⟨trivial, ?_⟩, ?_⟩
          · rw [← hsame]
            exact hagrees
          · intro c' hc'
            rw [← Option.some.inj hc']
            exact hsame
        · rintro ⟨⟨-, hagrees⟩, hsame⟩
          have hsame := hsame c rfl
          refine ⟨hsame, ?_⟩
          show ∀ e ∈ events, e.AgreesWith c
          rw [hsame]
          exact hagrees
      · have hguarded := guarded_onInviteException cdr c.disconnect_internal_code
          c.disconnect_internal_reason no_reply
        have hrest := ih ((writed_of_guarded hguarded).trans hcdr)
          ((initiator_writed_of_guarded hguarded).trans hguard)
        rw [← onInviteException_agrees, and_assoc]
        apply and_congr_right
        intro hcause
        rw [hcause] at hrest
        exact hrest

/-- From the first event that brings a cause on, this cause must stay. -/
theorem keepsCause_cons {e : CdrEvent} {c : Cause} (hsupplied : e.supplied = some c)
    (hset : (e.apply cdr).cause = c) (events : List CdrEvent) :
    cdr.KeepsCause (e :: events) ↔ (e.apply cdr).Stays events := by
  unfold KeepsCause Stays
  rw [List.forall_prefix_cons]
  have hfirst (past : List CdrEvent) : (e :: past).findSome? CdrEvent.supplied = some c := by
    rw [List.findSome?_cons, hsupplied]
  constructor
  · rintro ⟨-, hcons⟩ past hpast
    have h := hcons past hpast
    rw [hfirst] at h
    rw [hset]
    exact h
  · intro hstays
    refine ⟨rfl, ?_⟩
    intro past hpast
    rw [hfirst, List.foldl_cons, hstays past hpast, hset]
    rfl

theorem keepsCause_cons_none {e : CdrEvent} (hsupplied : e.supplied = none)
    (events : List CdrEvent) :
    cdr.KeepsCause (e :: events) ↔ (e.apply cdr).KeepsCause events := by
  have hcause := cause_of_guarded (guarded_of_not_supplied cdr hsupplied)
  unfold KeepsCause
  rw [List.forall_prefix_cons, hcause]
  have hskip (past : List CdrEvent) :
      (e :: past).findSome? CdrEvent.supplied = past.findSome? CdrEvent.supplied := by
    rw [List.findSome?_cons, hsupplied]
  constructor
  · rintro ⟨-, hcons⟩ past hpast
    have h := hcons past hpast
    rw [hskip] at h
    exact h
  · intro h
    refine ⟨rfl, ?_⟩
    intro past hpast
    rw [hskip]
    exact h past hpast

/-- A CDR in use records the cause of the first event that brings one, at any time,
    exactly if all later exceptions agree with it and, should that event be an
    exception, the first internal reason after it brings the same cause. -/
theorem keepsCause_iff_agreeing (hfresh : cdr.Fresh) (events : List CdrEvent) :
    cdr.KeepsCause events ↔ CdrEvent.Agreeing events := by
  induction events generalizing cdr with
  | nil =>
    refine iff_of_true ?_ trivial
    intro past hpast
    rw [List.prefix_nil.mp hpast]
    rfl
  | cons e events ih =>
    cases hsupplied : e.supplied with
    | none =>
      have hguarded := guarded_of_not_supplied cdr hsupplied
      have hcode : (e.apply cdr).disconnect_internal_code = cdr.disconnect_internal_code :=
        congrArg Cause.disconnect_internal_code (cause_of_guarded hguarded)
      have hfresh' : (e.apply cdr).Fresh :=
        ⟨(writed_of_guarded hguarded).trans hfresh.unwritten,
          (initiator_writed_of_guarded hguarded).trans hfresh.open_cause,
          hcode.trans hfresh.no_code⟩
      rw [keepsCause_cons_none hsupplied, ih hfresh', agreeing_cons_none hsupplied]
    | some c =>
      rcases eq_of_supplied hsupplied with ⟨now, rfl⟩ | ⟨no_reply, hts, rfl⟩
      · have hguarded := guarded_update_internal_reason hfresh.unwritten c.disconnect_initiator
          c.disconnect_internal_reason c.disconnect_internal_code now
        rw [if_neg (by simp [hfresh.open_cause])] at hguarded
        have hcause := cause_of_guarded hguarded
        rw [keepsCause_cons hsupplied hcause, stays_guarded (writed_of_guarded hguarded)
          (initiator_writed_of_guarded hguarded), hcause]
        rfl
      · have hguarded := guarded_onInviteException cdr c.disconnect_internal_code
          c.disconnect_internal_reason no_reply
        rw [if_pos hfresh.no_code, ← hts] at hguarded
        have hcause := cause_of_guarded hguarded
        rw [keepsCause_cons hsupplied hcause,
          stays_unguarded ((writed_of_guarded hguarded).trans hfresh.unwritten)
            ((initiator_writed_of_guarded hguarded).trans hfresh.open_cause), hcause, hts]
        rfl

/-- The constructors of `Cdr` start without a cause. -/
theorem fresh_ofProfile (p : SqlCallProfile) : Fresh { toCdr := .ofProfile p } := ⟨rfl, rfl, rfl⟩

theorem fresh_next (cdr : Cdr) (p : SqlCallProfile) (start_time : Nat) :
    Fresh { toCdr := cdr.next p, start_time, end_time := start_time } := ⟨rfl, rfl, rfl⟩

/-- The normal end of a call: the BYE of the A leg, then the reasons of both legs. -/
theorem keepsCause_bye :
    TimedCdr.KeepsCause { toCdr := .ofProfile { ruri := "sip:1@a" } }
      [.update_internal_reason .DisconnectByORG "Bye" 200 5, .update_bleg_reason "Bye" 200,
        .update_aleg_reason "Bye" 200] := by
  apply (keepsCause_iff_agreeing (fresh_ofProfile _) _).mpr
  show ∀ e ∈ _, _
  simp [CdrEvent.AgreesWith]

/-- An exception after the BYE of the caller: the code and the reason are those of the
    BYE, and the switch is named as the one that ended the call. -/
theorem not_keepsCause_exception_after_bye :
    ¬ TimedCdr.KeepsCause { toCdr := .ofProfile { ruri := "sip:1@a" } }
      [.update_internal_reason .DisconnectByORG "Bye" 200 5,
        .onInviteException 500 "Server Internal Error" false] := by
  intro h
  have hlast := h _ (List.prefix_refl _)
  revert hlast
  decide

end TimedCdr

end Yeti.Call
