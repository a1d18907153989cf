import Mathlib.Algebra.Order.Group.Int
import Mathlib.Algebra.Ring.Int.Defs
import Mathlib.Data.List.Infix
import Mathlib.Data.Nat.Cast.Basic
import Yeti.Framework.Buckets

/-! # Rate limit of the RTP relay

    `DynRateLimit` counts in an `int` what may still be relayed.  A packet passes
    whenever the counter is positive, whatever its size, so the counter goes into
    debt; a refill adds `rate` and caps the counter at `peak`.  Rate, peak and size
    come in as unsigned numbers, and `counter -= size` is computed on unsigned
    numbers too.

    The counter of the code is the level of a bucket as long as rate, peak and the
    sizes are small, and the bounds of the bucket carry over.
-/

namespace Yeti.Rate

open Buckets

/-! ### The limiter -/

/-- `counter` is signed, the other two are unsigned. -/
structure DynRateLimit where
  last_update : BitVec 32
  counter : BitVec 32
  time_base : BitVec 32
  deriving DecidableEq, Repr

/-- One call of `limit`.  The clock is read in the test, and again by
    `update_limit`; other threads may have moved it in between. -/
structure Packet where
  wall_clock : BitVec 32
  update_clock : BitVec 32
  size : BitVec 32
  deriving DecidableEq, Repr

namespace DynRateLimit

/-- The constructor; the clock has a resolution of 20 ms. -/
def ofTimeBase (time_base_ms : BitVec 32) : DynRateLimit :=
  { last_update := 0, counter := 0, time_base := time_base_ms / 20 }

/-- The time base has passed, on a clock that wraps around. -/
def due (l : DynRateLimit) (wall_clock : BitVec 32) : Bool :=
  l.time_base.ult (wall_clock - l.last_update)

/-- `min(peak, counter+rate)` on signed numbers; `none` when the sum overflows. -/
def update_limit (l : DynRateLimit) (rate peak wall_clock : BitVec 32) : Option DynRateLimit :=
  if l.counter.saddOverflow rate then none
  else some { l with
    counter := if peak.slt (l.counter + rate) then peak else l.counter + rate
    last_update := wall_clock }

/-- The limiter as the packet finds it, after the update that may be due. -/
def refreshed (l : DynRateLimit) (rate peak : BitVec 32) (p : Packet) : Option DynRateLimit :=
  if l.due p.wall_clock then l.update_limit rate peak p.update_clock else some l

/-- The test of the counter; `true` says that the packet is to be dropped. -/
def check (l : DynRateLimit) (size : BitVec 32) : Bool × DynRateLimit :=
  if l.counter.sle 0 then (true, l) else (false, { l with counter := l.counter - size })

def limit (l : DynRateLimit) (rate peak : BitVec 32) (p : Packet) :
    Option (Bool × DynRateLimit) :=
  (l.refreshed rate peak p).map (·.check p.size)

end DynRateLimit

/-! ### Runs -/

/-- What is seen of one call: the counter that was tested and the one left. -/
structure Outcome where
  size : BitVec 32
  refilled : Bool
  tested : BitVec 32
  limited : Bool
  left : BitVec 32
  deriving DecidableEq, Repr

namespace Outcome

/-- The size of the packet if it was let through. -/
def passed (o : Outcome) : ℕ := if o.limited then 0 else o.size.toNat

/-- What the call did to the bucket. -/
def events (o : Outcome) : List (Event ℤ) :=
  (if o.refilled then [.refill] else []) ++ [.offer o.size.toNat]

/-- The total size of the admitted packets. -/
def admitted (os : List Outcome) : ℕ := (os.map passed).sum

/-- The number of refills. -/
def refills (os : List Outcome) : ℕ := os.countP (·.refilled)

/-- Both counters are between `1 - m` and the peak, and the subtraction is exact. -/
structure Sound (m : ℕ) (peak : BitVec 32) (o : Outcome) : Prop where
  tested : 1 - (m : ℤ) ≤ o.tested.toInt ∧ o.tested.toInt ≤ peak.toNat
  left : 1 - (m : ℤ) ≤ o.left.toInt ∧ o.left.toInt ≤ peak.toNat
  spent : o.left.toInt = o.tested.toInt - o.passed

end Outcome

namespace DynRateLimit

/-- One call of `limit` with what is seen of it. -/
def call (l : DynRateLimit) (rate peak : BitVec 32) (p : Packet) :
    Option (Outcome × DynRateLimit) :=
  (l.refreshed rate peak p).map fun r =>
    ({ size := p.size
       refilled := l.due p.wall_clock
       tested := r.counter
       limited := (r.check p.size).1
       left := (r.check p.size).2.counter }, (r.check p.size).2)

/-- Calls one after the other, as the mutex orders them. -/
def run (rate peak : BitVec 32) : DynRateLimit → List Packet → Option (List Outcome × DynRateLimit)
  | l, [] => some ([], l)
  | l, p :: packets =>
    (l.call rate peak p).bind fun c =>
      (run rate peak c.2 packets).map fun r => (c.1 :: r.1, r.2)

theorem run_cons {rate peak : BitVec 32} {l l' l'' : DynRateLimit} {p : Packet}
    {packets : List Packet} {o : Outcome} {os : List Outcome}
    (hcall : l.call rate peak p = some (o, l'))
    (hrun : run rate peak l' packets = some (os, l'')) :
    run rate peak l (p :: packets) = some (o :: os, l'') := by
  show (l.call rate peak p).bind _ = _
  rw [hcall]
  show (run rate peak l' packets).map _ = _
  rw [hrun]
  rfl

/-- What `limit` returns is the verdict of the call. -/
theorem call_limit (l : DynRateLimit) (rate peak : BitVec 32) (p : Packet) :
    l.limit rate peak p = (l.call rate peak p).map fun c => (c.1.limited, c.2) := by
  unfold limit call
  rw [Option.map_map]
  rfl

end DynRateLimit

/-! ### The limiter as a bucket -/

/-- Rate, peak and the largest size are positive and below `2 ^ 30`. -/
structure Small (rate peak : BitVec 32) (m : ℕ) : Prop where
  rate_pos : 0 < rate.toNat
  rate_lt : rate.toNat < 2 ^ 30
  peak_pos : 0 < peak.toNat
  peak_lt : peak.toNat < 2 ^ 30
  m_pos : 0 < m
  m_lt : m < 2 ^ 30

/-- The bucket the limiter implements. -/
def bucket (rate peak : BitVec 32) : Bucket ℤ := { rate := rate.toNat, peak := peak.toNat }

/-- The counter is the level of the bucket, within its bounds. -/
def Kept (rate peak : BitVec 32) (m : ℕ) (l : DynRateLimit) : Prop :=
  (bucket rate peak).Within m l.counter.toInt

variable {rate peak : BitVec 32} {m : ℕ}

/-- Numbers below `2 ^ 30` are the same signed and unsigned. -/
theorem toInt_of_small {x : BitVec 32} (h : x.toNat < 2 ^ 30) : x.toInt = x.toNat :=
  BitVec.toInt_eq_toNat_of_lt (by omega)

theorem Kept.range (hsmall : Small rate peak m) {l : DynRateLimit} (h : Kept rate peak m l) :
    -2 ^ 30 < l.counter.toInt ∧ l.counter.toInt < 2 ^ 30 := by
  have hdebt : -(m : ℤ) < l.counter.toInt := h.debt
  have hcap : l.counter.toInt ≤ peak.toNat := h.cap
  have hm := hsmall.m_lt
  have hpeak := hsmall.peak_lt
  omega

/-- The update is a refill of the bucket. -/
theorem update_limit_eq (hsmall : Small rate peak m) {l : DynRateLimit}
    (h : Kept rate peak m l) (clock : BitVec 32) :
    ∃ r, l.update_limit rate peak clock = some r ∧
      r.counter.toInt = (bucket rate peak).step l.counter.toInt .refill := by
  have hrate := toInt_of_small hsmall.rate_lt
  have hpeak := toInt_of_small hsmall.peak_lt
  have hrange := h.range hsmall
  have hfits : ¬ l.counter.saddOverflow rate := by
    have := hsmall.rate_lt
    simp only [BitVec.saddOverflow, hrate, Bool.or_eq_true, decide_eq_true_eq]
    omega
  have hsum : (l.counter + rate).toInt = l.counter.toInt + rate.toNat := by
    rw [BitVec.toInt_add_of_not_saddOverflow hfits, hrate]
  refine ⟨_, if_neg hfits, ?_⟩
  show (if peak.slt (l.counter + rate) then peak else l.counter + rate).toInt =
    min (peak.toNat : ℤ) (l.counter.toInt + rate.toNat)
  by_cases hslt : peak.slt (l.counter + rate)
  · have hlt : (peak.toNat : ℤ) < l.counter.toInt + rate.toNat := by
      rw [← hpeak, ← hsum]
      exact BitVec.slt_iff_toInt_lt.mp hslt
    rw [if_pos hslt, hpeak, min_eq_left hlt.le]
  · have hle : l.counter.toInt + rate.toNat ≤ (peak.toNat : ℤ) := by
      rw [← hpeak, ← hsum]
      exact not_lt.mp (fun hlt => hslt (BitVec.slt_iff_toInt_lt.mpr hlt))
    rw [if_neg hslt, hsum, min_eq_right hle]

/-- The test is an offer to the bucket. -/
theorem check_eq (hsmall : Small rate peak m) {l : DynRateLimit} (h : Kept rate peak m l)
    {size : BitVec 32} (hsize : size.toNat ≤ m) :
    (l.check size).2.counter.toInt =
        (bucket rate peak).step l.counter.toInt (.offer size.toNat) ∧
      ((if (l.check size).1 then 0 else size.toNat : ℕ) : ℤ) =
        takenBy l.counter.toInt (.offer (size.toNat : ℤ)) := by
  have hsigned : size.toInt = size.toNat :=
    toInt_of_small (hsize.trans_lt hsmall.m_lt)
  have hrange := h.range hsmall
  have hfits : ¬ l.counter.ssubOverflow size := by
    have := hsmall.m_lt
    simp only [BitVec.ssubOverflow, hsigned, Bool.or_eq_true, decide_eq_true_eq]
    omega
  have hdiff : (l.counter - size).toInt = l.counter.toInt - size.toNat := by
    rw [BitVec.toInt_sub_of_not_ssubOverflow hfits, hsigned]
  by_cases hpos : 0 < l.counter.toInt
  · have hsle : ¬ l.counter.sle 0 := fun hle =>
      absurd (BitVec.sle_iff_toInt_le.mp hle) (not_le.mpr hpos)
    have hpassed : l.check size = (false, { l with counter := l.counter - size }) := if_neg hsle
    rw [hpassed]
    exact ⟨hdiff.trans (if_pos hpos).symm, (if_pos hpos).symm⟩
  · have hsle : l.counter.sle 0 := BitVec.sle_iff_toInt_le.mpr (not_lt.mp hpos)
    have hdropped : l.check size = (true, l) := if_pos hsle
    rw [hdropped]
    exact ⟨(if_neg hpos).symm, (if_neg hpos).symm⟩

/-! ### One call -/

/-- A refill takes nothing. -/
theorem taken_refill (level : ℤ) (refilled : Bool) :
    (bucket rate peak).taken level (if refilled then [.refill] else []) = 0 := by
  cases refilled <;> rfl

/-- What holds of a call on a limiter within its bounds. -/
structure Called (rate peak : BitVec 32) (m : ℕ) (l l' : DynRateLimit) (o : Outcome) : Prop where
  kept : Kept rate peak m l'
  sound : o.Sound m peak
  level : l'.counter.toInt = (bucket rate peak).run l.counter.toInt o.events
  taken : (o.passed : ℤ) = (bucket rate peak).taken l.counter.toInt o.events
  offers : OffersUpTo (m : ℤ) o.events

theorem Small.nonneg (hsmall : Small rate peak m) :
    0 ≤ (bucket rate peak).rate ∧ 0 < (bucket rate peak).peak ∧ (0 : ℤ) ≤ m := by
  have hpeak := hsmall.peak_pos
  refine ⟨Int.natCast_nonneg _, ?_, Int.natCast_nonneg _⟩
  show (0 : ℤ) < peak.toNat
  omega

theorem offersUpTo_events {o : Outcome} (hsize : o.size.toNat ≤ m) :
    OffersUpTo (m : ℤ) o.events := by
  intro size hmem
  have hoffer : size = o.size.toNat := by
    unfold Outcome.events at hmem
    split at hmem <;> simpa using hmem
  rw [hoffer]
  exact ⟨Int.natCast_nonneg _, Int.ofNat_le.mpr hsize⟩

/-- The update, if any, keeps the bounds and is what the outcome's events begin with. -/
theorem refreshed_eq (hsmall : Small rate peak m) {l : DynRateLimit} (h : Kept rate peak m l)
    (p : Packet) :
    ∃ r, l.refreshed rate peak p = some r ∧ Kept rate peak m r ∧
      r.counter.toInt = (bucket rate peak).run l.counter.toInt
        (if l.due p.wall_clock then [.refill] else []) := by
  obtain ⟨hrate, hpeak, hm⟩ := hsmall.nonneg
  unfold DynRateLimit.refreshed
  by_cases hdue : l.due p.wall_clock
  · obtain ⟨r, hr, hlevel⟩ := update_limit_eq hsmall h p.update_clock
    have hoffers : OffersUpTo (m : ℤ) [.refill] := fun size hmem => by simp at hmem
    rw [if_pos hdue, if_pos hdue]
    refine ⟨r, hr, ?_, hlevel⟩
    show (bucket rate peak).Within m r.counter.toInt
    rw [hlevel]
    exact Bucket.step_within hrate hpeak hm h hoffers
  · rw [if_neg hdue, if_neg hdue]
    exact ⟨l, rfl, h, rfl⟩

/-- The bounds of a bucket on whole numbers. -/
theorem Kept.bounds {l : DynRateLimit} (h : Kept rate peak m l) :
    1 - (m : ℤ) ≤ l.counter.toInt ∧ l.counter.toInt ≤ peak.toNat := by
  have hdebt : -(m : ℤ) < l.counter.toInt := h.debt
  exact ⟨by omega, h.cap⟩

theorem call_spec (hsmall : Small rate peak m) {l : DynRateLimit} (h : Kept rate peak m l)
    {p : Packet} (hsize : p.size.toNat ≤ m) :
    ∃ o l', l.call rate peak p = some (o, l') ∧ Called rate peak m l l' o := by
  obtain ⟨hrate, hpeak, hm⟩ := hsmall.nonneg
  obtain ⟨r, hr, hkept, hlevel⟩ := refreshed_eq hsmall h p
  obtain ⟨hcheck, hpassed⟩ := check_eq hsmall hkept hsize
  let o : Outcome :=
    { size := p.size
      refilled := l.due p.wall_clock
      tested := r.counter
      limited := (r.check p.size).1
      left := (r.check p.size).2.counter }
  have hcall : l.call rate peak p = some (o, (r.check p.size).2) := by
    unfold DynRateLimit.call
    rw [hr]
    rfl
  have hoffers : OffersUpTo (m : ℤ) o.events := offersUpTo_events hsize
  have hrun : (r.check p.size).2.counter.toInt =
      (bucket rate peak).run l.counter.toInt o.events := by
    unfold Outcome.events
    rw [Bucket.run_append, ← hlevel]
    exact hcheck
  have htaken : (o.passed : ℤ) = (bucket rate peak).taken l.counter.toInt o.events := by
    unfold Outcome.events
    rw [Bucket.taken_append, taken_refill, ← hlevel, zero_add]
    exact hpassed.trans (add_zero _).symm
  have hleft : Kept rate peak m (r.check p.size).2 := by
    show (bucket rate peak).Within m _
    rw [hrun]
    exact Bucket.run_within hrate hpeak hm h hoffers
  have hspent : o.left.toInt = o.tested.toInt - o.passed := by
    show (r.check p.size).2.counter.toInt = r.counter.toInt - o.passed
    rw [hcheck, Bucket.step_offer, ← hpassed]
    rfl
  exact ⟨o, _, hcall, hleft, ⟨hkept.bounds, hleft.bounds, hspent⟩, hrun, htaken, hoffers⟩

/-! ### Whole runs -/

/-- The events of all calls. -/
def eventsOf (os : List Outcome) : List (Event ℤ) := os.flatMap Outcome.events

theorem refills_eventsOf (os : List Outcome) :
    Buckets.refills (eventsOf os) = Outcome.refills os := by
  induction os with
  | nil => rfl
  | cons o os ih =>
    have hone : Buckets.refills o.events = [o].countP (·.refilled) := by
      unfold Outcome.events Buckets.refills
      cases hrefilled : o.refilled <;> simp [hrefilled, List.countP_cons, Event.isRefill]
    calc Buckets.refills (o.events ++ eventsOf os)
        = Buckets.refills o.events + Buckets.refills (eventsOf os) := List.countP_append
      _ = [o].countP (·.refilled) + Outcome.refills os := by rw [hone, ih]
      _ = Outcome.refills (o :: os) := List.countP_append.symm

/-- What holds of a run that starts on a limiter within its bounds. -/
structure Ran (rate peak : BitVec 32) (m : ℕ) (l l' : DynRateLimit) (os : List Outcome) :
    Prop where
  kept : Kept rate peak m l'
  sound : ∀ o ∈ os, o.Sound m peak
  level : l'.counter.toInt = (bucket rate peak).run l.counter.toInt (eventsOf os)
  taken : (Outcome.admitted os : ℤ) = (bucket rate peak).taken l.counter.toInt (eventsOf os)
  offers : OffersUpTo (m : ℤ) (eventsOf os)

/-- A call before a run. -/
theorem Ran.cons {l l' l'' : DynRateLimit} {o : Outcome} {os : List Outcome}
    (hcall : Called rate peak m l l' o) (hran : Ran rate peak m l' l'' os) :
    Ran rate peak m l l'' (o :: os) := by
  have hevents : eventsOf (o :: os) = o.events ++ eventsOf os := List.flatMap_cons
  refine ⟨hran.kept, ?_, ?_, ?_, ?_⟩
  · exact List.forall_mem_cons.mpr ⟨hcall.sound, hran.sound⟩
  · rw [hevents, Bucket.run_append, ← hcall.level]
    exact hran.level
  · have hsum : Outcome.admitted (o :: os) = o.passed + Outcome.admitted os := List.sum_cons
    rw [hevents, Bucket.taken_append, ← hcall.level, ← hcall.taken, ← hran.taken, hsum]
    exact Int.natCast_add _ _
  · intro size hmem
    rw [hevents, List.mem_append] at hmem
    exact hmem.elim (hcall.offers size) (hran.offers size)

theorem run_spec (hsmall : Small rate peak m) {packets : List Packet} {l : DynRateLimit}
    (h : Kept rate peak m l) (hsizes : ∀ p ∈ packets, p.size.toNat ≤ m) :
    ∃ os l', DynRateLimit.run rate peak l packets = some (os, l') ∧ Ran rate peak m l l' os := by
  induction packets generalizing l with
  | nil =>
    refine ⟨[], l, rfl, h, ?_, rfl, rfl, ?_⟩
    · intro o hmem
      contradiction
    · intro size hmem
      contradiction
  | cons p packets ih =>
    obtain ⟨hsize, hrest⟩ := List.forall_mem_cons.mp hsizes
    obtain ⟨o, l', hcall, hcalled⟩ := call_spec hsmall h hsize
    obtain ⟨os, l'', hrun, hran⟩ := ih hcalled.kept hrest
    exact ⟨o :: os, l'', DynRateLimit.run_cons hcall hrun, hran.cons hcalled⟩

theorem ran_of_run (hsmall : Small rate peak m) {packets : List Packet} {l l' : DynRateLimit}
    {os : List Outcome} (h : Kept rate peak m l) (hsizes : ∀ p ∈ packets, p.size.toNat ≤ m)
    (hrun : DynRateLimit.run rate peak l packets = some (os, l')) :
    Ran rate peak m l l' os := by
  obtain ⟨os', l'', hrun', hran⟩ := run_spec hsmall h hsizes
  obtain ⟨hos, hl⟩ := Prod.mk.inj (Option.some.inj (hrun.symm.trans hrun'))
  rw [hos, hl]
  exact hran

/-- A run whose outcomes split is a run of two parts. -/
theorem run_append_inv {s t : List Outcome} {l l'' : DynRateLimit} {packets : List Packet}
    (h : DynRateLimit.run rate peak l packets = some (s ++ t, l'')) :
    ∃ ps qs l', packets = ps ++ qs ∧ DynRateLimit.run rate peak l ps = some (s, l') ∧
      DynRateLimit.run rate peak l' qs = some (t, l'') := by
  induction s generalizing l packets with
  | nil => exact ⟨[], packets, l, rfl, rfl, h⟩
  | cons o s ih =>
    cases packets with
    | nil => simp [DynRateLimit.run] at h
    | cons p packets =>
      obtain ⟨c, hcall, hmap⟩ := Option.bind_eq_some_iff.mp h
      obtain ⟨r, hrest, heq⟩ := Option.map_eq_some_iff.mp hmap
      obtain ⟨hhead, hlast⟩ := Prod.mk.inj heq
      obtain ⟨ho, hos⟩ := List.cons.inj hhead
      have htail : DynRateLimit.run rate peak c.2 packets = some (s ++ t, l'') := by
        rw [hrest, ← hlast]
        exact congrArg some (Prod.ext hos rfl)
      obtain ⟨ps, qs, mid, hsplit, hps, hqs⟩ := ih htail
      have hhead : l.call rate peak p = some (o, c.2) := by
        rw [hcall, ← ho]
      exact ⟨p :: ps, qs, mid, congrArg (p :: ·) hsplit, DynRateLimit.run_cons hhead hps, hqs⟩

/-- **The calls of a run pay for what they let through** with the counter, the
    refills and a debt smaller than the largest packet. -/
theorem Ran.admitted_le (hsmall : Small rate peak m) {l l' : DynRateLimit} {os : List Outcome}
    (h : Kept rate peak m l) (hran : Ran rate peak m l l' os) :
    (Outcome.admitted os : ℤ) ≤
      l.counter.toInt + Outcome.refills os * rate.toNat + m - 1 := by
  obtain ⟨hrate, hpeak, hm⟩ := hsmall.nonneg
  have hlt := Bucket.taken_lt hrate hpeak hm h hran.offers
  rw [← hran.taken, refills_eventsOf] at hlt
  have hgain : Outcome.refills os • (bucket rate peak).rate =
      (Outcome.refills os : ℤ) * rate.toNat := nsmul_eq_mul _ _
  exact Int.le_sub_one_of_lt
    (hlt.trans_eq (congrArg (fun gain => l.counter.toInt + gain + m) hgain))

/-- The new limiter is empty. -/
theorem kept_ofTimeBase (hsmall : Small rate peak m) (time_base_ms : BitVec 32) :
    Kept rate peak m (DynRateLimit.ofTimeBase time_base_ms) := by
  have hm := hsmall.m_pos
  constructor
  · show -(m : ℤ) < 0
    omega
  · show (0 : ℤ) ≤ peak.toNat
    omega

/-- **Rate limit bound.**  No run overflows; every counter is between `1 - m` and the
    peak and loses exactly the admitted size; a window with `j` refills admits at most
    `peak + j * rate + m - 1`, a whole run one peak less. -/
theorem run_bounded (hsmall : Small rate peak m) (time_base_ms : BitVec 32)
    (packets : List Packet) (hsizes : ∀ p ∈ packets, 1 ≤ p.size.toNat ∧ p.size.toNat ≤ m) :
    ∃ os l, (DynRateLimit.ofTimeBase time_base_ms).run rate peak packets = some (os, l) ∧
      (∀ o ∈ os, o.Sound m peak) ∧
      (∀ w, w <:+: os → (Outcome.admitted w : ℤ) ≤
        peak.toNat + Outcome.refills w * rate.toNat + m - 1) ∧
      (Outcome.admitted os : ℤ) ≤ Outcome.refills os * rate.toNat + m - 1 := by
  have hnew := kept_ofTimeBase hsmall time_base_ms
  have hle : ∀ p ∈ packets, p.size.toNat ≤ m := fun p hp => (hsizes p hp).2
  obtain ⟨os, l, hrun, hran⟩ := run_spec hsmall hnew hle
  refine ⟨os, l, hrun, hran.sound, ?_, ?_⟩
  · intro w hinfix
    obtain ⟨s, t, hos⟩ := hinfix
    rw [← hos] at hrun
    -- the run up to the window, then the window itself, both from bounded counters
    obtain ⟨ps, qs, l₂, hpackets, hbefore, -⟩ := run_append_inv hrun
    obtain ⟨ps₁, ps₂, l₁, hps, hstart, hwindow⟩ := run_append_inv hbefore
    rw [hpackets, hps, List.append_assoc] at hle
    have hle₁ : ∀ p ∈ ps₁, p.size.toNat ≤ m := fun p hp =>
      hle p (List.mem_append_left _ hp)
    have hle₂ : ∀ p ∈ ps₂, p.size.toNat ≤ m := fun p hp =>
      hle p (List.mem_append_right _ (List.mem_append_left _ hp))
    have hkept : Kept rate peak m l₁ := (ran_of_run hsmall hnew hle₁ hstart).kept
    have hadmitted := (ran_of_run hsmall hkept hle₂ hwindow).admitted_le hsmall hkept
    have hcap := hkept.bounds.2
    omega
  · have htotal := hran.admitted_le hsmall hnew
    have hempty : (DynRateLimit.ofTimeBase time_base_ms).counter.toInt = 0 := rfl
    rwa [hempty, zero_add] at htotal

/-- A full bucket is refilled, goes into debt, drops a packet and is refilled again. -/
theorem run_bounded_debt :
    Small 100 150 200 ∧
    (∃ os l, (DynRateLimit.ofTimeBase 1000).run 100 150
        [⟨60, 60, 200⟩, ⟨61, 61, 50⟩, ⟨111, 111, 10⟩, ⟨300, 300, 40⟩] = some (os, l) ∧
      (∀ o ∈ os, o.Sound 200 150) ∧
      (∀ w, w <:+: os → (Outcome.admitted w : ℤ) ≤
        (150 : BitVec 32).toNat + Outcome.refills w * (100 : BitVec 32).toNat + (200 : ℕ) - 1) ∧
      (Outcome.admitted os : ℤ) ≤
        Outcome.refills os * (100 : BitVec 32).toNat + (200 : ℕ) - 1) :=
  have hsmall : Small 100 150 200 := by constructor <;> decide
  ⟨hsmall, run_bounded hsmall 1000 _ (by decide)⟩

end Yeti.Rate
