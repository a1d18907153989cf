import Yeti.Call.Causes

/-! # The times of a CDR

    `Cdr` has no flag for the end of a call: a call has not ended as long as
    `end_time` is equal to `start_time`.  The three writers of the times test that
    encoding, and it says what it should as long as the clock moves on between the
    start and the updates, and no update starts the CDR again.
-/

namespace Yeti.Call

namespace TimedCdr

/-- `Cdr::set_start_time`.  A CDR that is written is started as well. -/
def set_start_time (cdr : TimedCdr) (t : Nat) : TimedCdr :=
  { cdr with end_time := t, start_time := t }

end TimedCdr

/-! ### Updates -/

/-- Updates of a CDR in use, with the time for those that read the clock. -/
inductive CdrUpdate where
  | update_with_action (act : UpdateAction) (now : Nat)
  | update_internal_reason (initiator : DisconnectInitiator) (reason : String) (code : Int)
      (now : Nat)
  | update_aleg_reason (reason : String) (code : Int)
  | update_bleg_reason (reason : String) (code : Int)
  /-- The CDR is marked as written. -/
  | written
  deriving DecidableEq, Repr

namespace CdrUpdate

/-- The update on a CDR. -/
def apply (cdr : TimedCdr) : CdrUpdate → TimedCdr
  | .update_with_action act now => cdr.update_with_action act now
  | .update_internal_reason initiator reason code now =>
    cdr.update_internal_reason initiator reason code now
  | .update_aleg_reason reason code => cdr.update_aleg_reason reason code
  | .update_bleg_reason reason code => cdr.update_bleg_reason reason code
  | .written => { cdr with writed := true }

/-- A CDR after updates. -/
def run (cdr : TimedCdr) (updates : List CdrUpdate) : TimedCdr := updates.foldl apply cdr

/-- The time that an update reads. -/
def time : CdrUpdate → Option Nat
  | .update_with_action _ now => some now
  | .update_internal_reason _ _ _ now => some now
  | _ => none

/-- The time at which an update ends the call. -/
def ends : CdrUpdate → Option Nat
  | .update_with_action .End now => some now
  | .update_internal_reason _ _ _ now => some now
  | _ => none

/-- The update starts the CDR again. -/
def starts : CdrUpdate → Bool
  | .update_with_action .Start _ => true
  | _ => false

/-- The time of the first update that ends the call, unless the CDR is written first. -/
def firstEnd : List CdrUpdate → Option Nat
  | [] => none
  | .written :: _ => none
  | u :: updates => u.ends.or (firstEnd updates)

/-- The times that the updates read are later than `t` and increase. -/
def Increasing (t : Nat) (updates : List CdrUpdate) : Prop :=
  (t :: updates.filterMap time).Pairwise (· < ·)

instance (t : Nat) (updates : List CdrUpdate) : Decidable (Increasing t updates) :=
  inferInstanceAs (Decidable ((t :: updates.filterMap time).Pairwise (· < ·)))

end CdrUpdate

open CdrUpdate

/-- The times of a CDR that was started at `t`, at any moment of the updates. -/
structure Timed (cdr : TimedCdr) (t : Nat) (updates : List CdrUpdate) : Prop where
  /-- The first end counts, and before it there is none. -/
  end_time : ∀ past, past <+: updates →
    (run (cdr.set_start_time t) past).end_time = (firstEnd past).getD t
  connect_time : ∀ past u, past ++ [u] <+: updates → (firstEnd past).isSome →
    (run (cdr.set_start_time t) (past ++ [u])).connect_time =
      (run (cdr.set_start_time t) past).connect_time
  ordered : ∀ past, past <+: updates → (firstEnd past).isSome →
    (run (cdr.set_start_time t) past).connect_time ≠ 0 →
    (run (cdr.set_start_time t) past).start_time <
        (run (cdr.set_start_time t) past).connect_time ∧
      (run (cdr.set_start_time t) past).connect_time <
        (run (cdr.set_start_time t) past).end_time
  /-- Once written, the whole CDR stays. -/
  frozen : ∀ past later, past ++ later <+: updates → .written ∈ past →
    run (cdr.set_start_time t) (past ++ later) = run (cdr.set_start_time t) past

namespace CdrUpdate

variable {cdr : TimedCdr} {t now : Nat}

theorem run_cons (u : CdrUpdate) (updates : List CdrUpdate) :
    run cdr (u :: updates) = run (u.apply cdr) updates := rfl

theorem run_append (past later : List CdrUpdate) :
    run cdr (past ++ later) = run (run cdr past) later := List.foldl_append

/-! ### After the CDR is written -/

theorem apply_of_writed (h : cdr.writed = true) (u : CdrUpdate) : u.apply cdr = cdr := by
  cases u with
  | update_with_action act now =>
    show cdr.update_with_action act now = cdr
    unfold TimedCdr.update_with_action
    rw [if_pos h]
  | update_internal_reason initiator reason code now =>
    show cdr.update_internal_reason initiator reason code now = cdr
    simp [TimedCdr.update_internal_reason, TimedCdr.update_with_action,
      Cdr.update_internal_reason, h]
  | update_aleg_reason reason code =>
    show cdr.update_aleg_reason reason code = cdr
    simp [TimedCdr.update_aleg_reason, Cdr.update_aleg_reason, h]
  | update_bleg_reason reason code =>
    show cdr.update_bleg_reason reason code = cdr
    rw [TimedCdr.update_bleg_reason, if_pos h]
  | written =>
    show { cdr with writed := true } = cdr
    rw [← h]

theorem run_of_writed (h : cdr.writed = true) (updates : List CdrUpdate) :
    run cdr updates = cdr := by
  induction updates with
  | nil => rfl
  | cons u updates ih => rw [run_cons, apply_of_writed h, ih]

/-- The mark stays. -/
theorem writed_run {updates : List CdrUpdate} (h : .written ∈ updates) :
    (run cdr updates).writed = true := by
  obtain ⟨past, later, rfl⟩ := List.append_of_mem h
  rw [run_append, run_cons]
  have hmark : (CdrUpdate.written.apply (run cdr past)).writed = true := rfl
  rw [run_of_writed hmark]
  exact hmark

/-! ### After the end of the call -/

/-- Start, connect and end of the call. -/
def times (cdr : TimedCdr) : Nat × Nat × Nat := (cdr.start_time, cdr.connect_time, cdr.end_time)

theorem start_time_of_times {s c e : Nat} (h : times cdr = (s, c, e)) : cdr.start_time = s :=
  congrArg (·.1) h

theorem connect_time_of_times {s c e : Nat} (h : times cdr = (s, c, e)) : cdr.connect_time = c :=
  congrArg (·.2.1) h

theorem end_time_of_times {s c e : Nat} (h : times cdr = (s, c, e)) : cdr.end_time = e :=
  congrArg (·.2.2) h

theorem times_update_aleg_reason (reason : String) (code : Int) :
    times (cdr.update_aleg_reason reason code) = times cdr := rfl

theorem times_update_bleg_reason (reason : String) (code : Int) :
    times (cdr.update_bleg_reason reason code) = times cdr := by
  unfold TimedCdr.update_bleg_reason
  split_ifs <;> rfl

theorem times_update_internal_reason (initiator : DisconnectInitiator) (reason : String)
    (code : Int) (now : Nat) :
    times (cdr.update_internal_reason initiator reason code now) =
      times (cdr.update_with_action .End now) := rfl

/-- A call that has ended keeps its times. -/
theorem times_apply_of_ended (h : cdr.start_time ≠ cdr.end_time) {u : CdrUpdate}
    (hu : u.starts = false) : times (u.apply cdr) = times cdr := by
  -- `End` comes as an action or with an internal reason
  have hend : ∀ now, times (cdr.update_with_action .End now) = times cdr := fun now => by
    simp [TimedCdr.update_with_action, h]
  cases u with
  | update_with_action act now =>
    cases act with
    | Start => cases hu
    | BLegInvite =>
      show times (cdr.update_with_action .BLegInvite now) = times cdr
      unfold TimedCdr.update_with_action
      simp only
      split_ifs <;> rfl
    | Connect =>
      show times (cdr.update_with_action .Connect now) = times cdr
      simp [TimedCdr.update_with_action, h]
    | BlegConnect =>
      show times (cdr.update_with_action .BlegConnect now) = times cdr
      unfold TimedCdr.update_with_action
      split_ifs <;> rfl
    | End => exact hend now
  | update_internal_reason initiator reason code now =>
    exact (times_update_internal_reason initiator reason code now).trans (hend now)
  | update_aleg_reason reason code => exact times_update_aleg_reason reason code
  | update_bleg_reason reason code => exact times_update_bleg_reason reason code
  | written => rfl

theorem times_run_of_ended {updates : List CdrUpdate} (h : cdr.start_time ≠ cdr.end_time)
    (hstart : ∀ u ∈ updates, u.starts = false) : times (run cdr updates) = times cdr := by
  induction updates generalizing cdr with
  | nil => rfl
  | cons u updates ih =>
    obtain ⟨hu, hrest⟩ := List.forall_mem_cons.mp hstart
    have hstep : times (u.apply cdr) = times cdr := times_apply_of_ended h hu
    have hended : (u.apply cdr).start_time ≠ (u.apply cdr).end_time := by
      rw [start_time_of_times hstep, end_time_of_times hstep]
      exact h
    rw [run_cons, ih hended hrest, hstep]

/-! ### Before the end of the call -/

/-- A CDR in use whose call, started at `t`, has not ended by the time `now`. -/
structure Going (t now : Nat) (cdr : TimedCdr) : Prop where
  unwritten : cdr.writed = false
  start_time : cdr.start_time = t
  end_time : cdr.end_time = t
  not_before : t ≤ now
  connect_time : cdr.connect_time = 0 ∨ t < cdr.connect_time ∧ cdr.connect_time ≤ now

/-- A later time is as good. -/
theorem Going.later (h : Going t now cdr) {now' : Nat} (hle : now ≤ now') : Going t now' cdr :=
  ⟨h.unwritten, h.start_time, h.end_time, Nat.le_trans h.not_before hle,
    h.connect_time.imp_right fun hc => ⟨hc.1, Nat.le_trans hc.2 hle⟩⟩

/-- Two kinds of updates end a call. -/
theorem eq_of_ends {u : CdrUpdate} {e : Nat} (hu : u.ends = some e) :
    u = .update_with_action .End e ∨
      ∃ initiator reason code, u = .update_internal_reason initiator reason code e := by
  cases u with
  | update_with_action act now =>
    cases act with
    | End =>
      cases hu
      exact .inl rfl
    | _ => cases hu
  | update_internal_reason initiator reason code now =>
    cases hu
    exact .inr ⟨initiator, reason, code, rfl⟩
  | _ => cases hu

theorem time_of_ends {u : CdrUpdate} {e : Nat} (hu : u.ends = some e) : u.time = some e := by
  rcases eq_of_ends hu with rfl | ⟨initiator, reason, code, rfl⟩ <;> rfl

theorem firstEnd_cons_of_ends {u : CdrUpdate} {e : Nat} (hu : u.ends = some e)
    (updates : List CdrUpdate) : firstEnd (u :: updates) = some e := by
  rcases eq_of_ends hu with rfl | ⟨initiator, reason, code, rfl⟩ <;> rfl

/-- An update that ends a going call. -/
theorem Going.times_of_ends (h : Going t now cdr) {u : CdrUpdate} {e : Nat}
    (hu : u.ends = some e) : times (u.apply cdr) = (t, cdr.connect_time, e) := by
  have hend : times (cdr.update_with_action .End e) = (t, cdr.connect_time, e) := by
    simp [times, TimedCdr.update_with_action, h.unwritten, h.start_time, h.end_time]
  rcases eq_of_ends hu with rfl | ⟨initiator, reason, code, rfl⟩
  · exact hend
  · show times (cdr.update_internal_reason initiator reason code e) = _
    rw [times_update_internal_reason, hend]

/-- Any other update leaves the call going. -/
theorem Going.step (h : Going t now cdr) {u : CdrUpdate} (hstart : u.starts = false)
    (hwritten : u ≠ .written) (hu : u.ends = none) (hlater : ∀ now' ∈ u.time, now < now') :
    Going t (u.time.getD now) (u.apply cdr) := by
  obtain ⟨hunwritten, hs, he, hle, hc⟩ := h
  cases u with
  | update_with_action act now' =>
    have hnow : now < now' := hlater now' rfl
    have hgoing : Going t now' cdr := Going.later ⟨hunwritten, hs, he, hle, hc⟩ (Nat.le_of_lt hnow)
    cases act with
    | Start => cases hstart
    | BLegInvite =>
      show Going t now' (cdr.update_with_action .BLegInvite now')
      simp only [TimedCdr.update_with_action, hunwritten, Bool.false_eq_true, if_false]
      split_ifs
      · exact ⟨hunwritten, hs, he, hgoing.not_before, hgoing.connect_time⟩
      · exact hgoing
    | Connect =>
      show Going t now' (cdr.update_with_action .Connect now')
      have heq : cdr.start_time = cdr.end_time := hs.trans he.symm
      simp only [TimedCdr.update_with_action, hunwritten, Bool.false_eq_true, if_false]
      rw [if_pos heq]
      -- the clock has moved on since the start
      exact ⟨hunwritten, hs, he, hgoing.not_before,
        .inr ⟨Nat.lt_of_le_of_lt hle hnow, Nat.le_refl now'⟩⟩
    | BlegConnect =>
      show Going t now' (cdr.update_with_action .BlegConnect now')
      simp only [TimedCdr.update_with_action, hunwritten, Bool.false_eq_true, if_false]
      exact ⟨hunwritten, hs, he, hgoing.not_before, hgoing.connect_time⟩
    | End => cases hu
  | update_internal_reason => cases hu
  | update_aleg_reason reason code =>
    refine ⟨?_, hs, he, hle, hc⟩
    simp [apply, TimedCdr.update_aleg_reason, Cdr.update_aleg_reason, hunwritten]
  | update_bleg_reason reason code =>
    simp only [apply, TimedCdr.update_bleg_reason, hunwritten, Bool.false_eq_true, if_false]
    split_ifs <;> exact ⟨hunwritten, hs, he, hle, hc⟩
  | written => exact absurd rfl hwritten

theorem Increasing.of_cons {u : CdrUpdate} {updates : List CdrUpdate}
    (h : Increasing t (u :: updates)) :
    (∀ now ∈ u.time, t < now) ∧ Increasing (u.time.getD t) updates := by
  unfold Increasing at h ⊢
  cases hu : u.time with
  | none =>
    rw [List.filterMap_cons_none hu] at h
    exact ⟨by simp, h⟩
  | some now =>
    rw [List.filterMap_cons_some hu] at h
    obtain ⟨hfirst, hrest⟩ := List.pairwise_cons.mp h
    exact ⟨by simpa using hfirst now List.mem_cons_self, hrest⟩

theorem firstEnd_cons_of_not_ends {u : CdrUpdate} (hu : u.ends = none) (hwritten : u ≠ .written)
    (updates : List CdrUpdate) : firstEnd (u :: updates) = firstEnd updates := by
  cases u with
  | written => exact absurd rfl hwritten
  | _ => simp [firstEnd, hu]

/-- What the updates leave of the times of a going call. -/
structure Kept (t : Nat) (updates : List CdrUpdate) (cdr : TimedCdr) : Prop where
  start_time : cdr.start_time = t
  end_time : cdr.end_time = (firstEnd updates).getD t
  later : ∀ e ∈ firstEnd updates, t < e
  connect_time : cdr.connect_time = 0 ∨
    t < cdr.connect_time ∧ ∀ e ∈ firstEnd updates, cdr.connect_time < e

/-- A call goes on as long as no end is recorded. -/
theorem Going.kept (h : Going t now cdr) {updates : List CdrUpdate}
    (hnone : firstEnd updates = none) : Kept t updates cdr where
  start_time := h.start_time
  end_time := by
    rw [hnone]
    exact h.end_time
  later := by simp [hnone]
  connect_time := h.connect_time.imp_right fun hc => ⟨hc.1, by simp [hnone]⟩

/-- Once a going call is ended, its times are those of the end. -/
theorem Going.kept_of_ends (h : Going t now cdr) {u : CdrUpdate} {e : Nat}
    (hends : u.ends = some e) (hnow : now < e) {updates : List CdrUpdate}
    (hstart : ∀ u ∈ updates, u.starts = false) :
    Kept t (u :: updates) (CdrUpdate.run (u.apply cdr) updates) := by
  have htimes : times (u.apply cdr) = (t, cdr.connect_time, e) := h.times_of_ends hends
  have hlt : t < e := Nat.lt_of_le_of_lt h.not_before hnow
  have hended : (u.apply cdr).start_time ≠ (u.apply cdr).end_time := by
    rw [start_time_of_times htimes, end_time_of_times htimes]
    exact Nat.ne_of_lt hlt
  have hrun := (times_run_of_ended hended hstart).trans htimes
  have hfirst : firstEnd (u :: updates) = some e := firstEnd_cons_of_ends hends updates
  refine ⟨start_time_of_times hrun, ?_, ?_, ?_⟩
  · rw [end_time_of_times hrun, hfirst, Option.getD_some]
  · simpa [hfirst] using hlt
  · rw [connect_time_of_times hrun, hfirst]
    refine h.connect_time.imp_right ?_
    intro ⟨hafter, hbefore⟩
    exact ⟨hafter, by simpa using Nat.lt_of_le_of_lt hbefore hnow⟩

/-- The updates of a going call, up to the first that ends it and beyond. -/
theorem Going.run {updates : List CdrUpdate} (h : Going t now cdr)
    (hclock : Increasing now updates) (hstart : ∀ u ∈ updates, u.starts = false) :
    Kept t updates (CdrUpdate.run cdr updates) := by
  induction updates generalizing now cdr with
  | nil => exact h.kept rfl
  | cons u updates ih =>
    obtain ⟨hu, hrest⟩ := List.forall_mem_cons.mp hstart
    obtain ⟨hlater, hclock⟩ := hclock.of_cons
    rw [run_cons]
    by_cases hwritten : u = .written
    · -- nothing is recorded any more, an end neither
      subst hwritten
      rw [run_of_writed rfl]
      have hkept : Kept t (.written :: updates) cdr := h.kept rfl
      exact ⟨hkept.start_time, hkept.end_time, hkept.later, hkept.connect_time⟩
    · cases hends : u.ends with
      | some e =>
        have hnow : now < e := hlater e (time_of_ends hends)
        exact h.kept_of_ends hends hnow hrest
      | none =>
        have hgoing := ih (h.step hu hwritten hends hlater) hclock hrest
        have hfirst := firstEnd_cons_of_not_ends hends hwritten updates
        exact ⟨hgoing.start_time, hfirst ▸ hgoing.end_time, hfirst ▸ hgoing.later,
          hfirst ▸ hgoing.connect_time⟩

theorem Increasing.of_prefix {past updates : List CdrUpdate} (h : Increasing t updates)
    (hpast : past <+: updates) : Increasing t past :=
  h.sublist ((hpast.sublist.filterMap time).cons_cons t)

end CdrUpdate

/-! ### All updates -/

/-- A CDR as it is when the call starts: in use, and not connected. -/
structure TimedCdr.Unconnected (cdr : TimedCdr) : Prop where
  unwritten : cdr.writed = false
  connect_time : cdr.connect_time = 0

theorem TimedCdr.Unconnected.going {cdr : TimedCdr} (h : cdr.Unconnected) (t : Nat) :
    Going t t (cdr.set_start_time t) :=
  ⟨h.unwritten, rfl, rfl, Nat.le_refl t, .inl h.connect_time⟩

/-- Both constructors of `Cdr` leave it so. -/
theorem unconnected_ofProfile (p : SqlCallProfile) :
    TimedCdr.Unconnected { toCdr := .ofProfile p } := ⟨rfl, rfl⟩

theorem unconnected_next (cdr : Cdr) (p : SqlCallProfile) (start_time : Nat) :
    TimedCdr.Unconnected { toCdr := cdr.next p, start_time, end_time := start_time } := ⟨rfl, rfl⟩

/-- As long as no update starts the CDR again, the first end of the call counts, no
    connect is recorded after it, and the times are in order. -/
theorem cdr_timed (cdr : TimedCdr) (hcdr : cdr.Unconnected) (t : Nat) (updates : List CdrUpdate)
    (hclock : Increasing t updates) (hstart : ∀ u ∈ updates, u.starts = false) :
    Timed cdr t updates := by
  have hkept : ∀ past, past <+: updates → Kept t past (run (cdr.set_start_time t) past) := by
    intro past hpast
    exact (hcdr.going t).run (hclock.of_prefix hpast) fun u hu => hstart u (hpast.subset hu)
  refine ⟨?_, ?_, ?_, ?_⟩
  · intro past hpast
    exact (hkept past hpast).end_time
  · intro past u hpast hended
    obtain ⟨e, he⟩ := Option.isSome_iff_exists.mp hended
    have hpre : past <+: updates := (List.prefix_append past [u]).trans hpast
    have hk := hkept past hpre
    have hne : (run (cdr.set_start_time t) past).start_time ≠
        (run (cdr.set_start_time t) past).end_time := by
      rw [hk.start_time, hk.end_time, he]
      exact Nat.ne_of_lt (hk.later e he)
    have hu : ∀ u' ∈ [u], u'.starts = false := fun u' hu' =>
      hstart u' (hpast.subset (List.mem_append_right past hu'))
    rw [run_append]
    exact connect_time_of_times (times_run_of_ended hne hu)
  · intro past hpast hended hconnect
    obtain ⟨e, he⟩ := Option.isSome_iff_exists.mp hended
    have hk := hkept past hpast
    obtain ⟨hafter, hbefore⟩ := hk.connect_time.resolve_left hconnect
    rw [hk.start_time, hk.end_time, he]
    exact ⟨hafter, hbefore e he⟩
  · intro past later _ hwritten
    rw [run_append, run_of_writed (writed_run hwritten)]

/-- A call that is answered, ended by both legs and connected late. -/
theorem cdr_timed_answered :
    Timed { toCdr := .ofProfile { ruri := "sip:1@a" } } 1
      [.update_with_action .Connect 2, .update_internal_reason .DisconnectByORG "Bye" 200 3,
        .update_with_action .Connect 4, .update_with_action .End 5, .written,
        .update_bleg_reason "Bye" 200] :=
  cdr_timed _ (unconnected_ofProfile _) 1 _ (by decide) (by decide)

/-- `Start` among the updates begins the CDR anew: the end of the call is lost. -/
theorem cdr_not_timed_restarted :
    TimedCdr.Unconnected { toCdr := .ofProfile { ruri := "sip:1@a" } } ∧
    Increasing 1 [.update_with_action .End 2, .update_with_action .Start 3] ∧
    ¬ Timed { toCdr := .ofProfile { ruri := "sip:1@a" } } 1
      [.update_with_action .End 2, .update_with_action .Start 3] := by
  refine ⟨unconnected_ofProfile _, by decide, ?_⟩
  intro h
  have hend := h.end_time _ (List.prefix_refl _)
  revert hend
  decide

end Yeti.Call
