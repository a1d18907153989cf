import Mathlib.Algebra.Order.Group.Defs
import Mathlib.Algebra.Order.Group.Basic
import Mathlib.Algebra.Order.Monoid.Unbundled.MinMax

/-! # Buckets that go into debt

    A bucket holds a level.  A refill adds `rate` and caps the level at `peak`; an
    offer of a positive level is taken whole, however large it is, so the level may
    fall below zero by less than the largest offer.

    * `step_balance`, `run_balance`: what is taken is paid by the level and the
      refills.
    * `run_within`: the level stays above the debt and at most at the peak.
    * `taken_lt`: how much a run takes at most.
-/

namespace Buckets

/-- The gain of a refill and the highest level. -/
structure Bucket (α : Type*) where
  rate : α
  peak : α

/-- What a bucket goes through. -/
inductive Event (α : Type*) where
  | refill
  | offer (size : α)
  deriving DecidableEq, Repr

variable {α : Type*} [AddCommGroup α] [LinearOrder α]

namespace Event

/-- The event is a refill. -/
def isRefill : Event α → Bool
  | .refill => true
  | .offer _ => false

end Event

/-- The number of refills among the events. -/
def refills (es : List (Event α)) : ℕ := es.countP Event.isRefill

/-- The offers are at most `m`. -/
def OffersUpTo (m : α) (es : List (Event α)) : Prop :=
  ∀ size, .offer size ∈ es → 0 ≤ size ∧ size ≤ m

/-- What an event takes out of a level. -/
def takenBy (level : α) : Event α → α
  | .refill => 0
  | .offer size => if 0 < level then size else 0

namespace Bucket

variable (b : Bucket α)

/-- The level after one event. -/
def step (level : α) : Event α → α
  | .refill => min b.peak (level + b.rate)
  | .offer size => if 0 < level then level - size else level

/-- The level after the events. -/
def run (level : α) (es : List (Event α)) : α := es.foldl b.step level

/-- What the events take out in all. -/
def taken : α → List (Event α) → α
  | _, [] => 0
  | level, e :: es => takenBy level e + taken (b.step level e) es

/-- The level is at most at the peak, and its debt is smaller than `m`. -/
structure Within (m level : α) : Prop where
  debt : -m < level
  cap : level ≤ b.peak

@[simp] theorem run_nil (level : α) : b.run level [] = level := rfl

@[simp] theorem run_cons (level : α) (e : Event α) (es : List (Event α)) :
    b.run level (e :: es) = b.run (b.step level e) es := rfl

theorem run_append (level : α) (es fs : List (Event α)) :
    b.run level (es ++ fs) = b.run (b.run level es) fs := List.foldl_append

theorem taken_append (level : α) (es fs : List (Event α)) :
    b.taken level (es ++ fs) = b.taken level es + b.taken (b.run level es) fs := by
  induction es generalizing level with
  | nil => exact (zero_add _).symm
  | cons e es ih =>
    show takenBy level e + b.taken (b.step level e) (es ++ fs) = _
    rw [ih, ← add_assoc]
    rfl

/-! ### Balance -/

variable {b}

/-- An offer lowers the level by what it takes. -/
theorem step_offer (level size : α) :
    b.step level (.offer size) = level - takenBy level (.offer size) := by
  show (if 0 < level then level - size else level) = level - if 0 < level then size else 0
  split
  · rfl
  · exact (sub_zero level).symm

/-- One event takes no more than the level loses, and a refill gives at most `rate`. -/
theorem step_balance (level : α) (e : Event α) :
    b.step level e + takenBy level e ≤ level + refills [e] • b.rate := by
  cases e with
  | refill =>
    show min b.peak (level + b.rate) + 0 ≤ level + 1 • b.rate
    rw [add_zero, one_nsmul]
    exact min_le_right _ _
  | offer size =>
    show (if 0 < level then level - size else level) + (if 0 < level then size else 0) ≤
      level + 0 • b.rate
    rw [zero_nsmul, add_zero]
    split
    · exact (sub_add_cancel level size).le
    · exact (add_zero level).le

variable [IsOrderedAddMonoid α]

theorem run_balance (level : α) (es : List (Event α)) :
    b.run level es + b.taken level es ≤ level + refills es • b.rate := by
  induction es generalizing level with
  | nil => exact (congrArg (level + ·) (zero_nsmul b.rate).symm).le
  | cons e es ih =>
    have hrefills : refills ([e] ++ es) = refills [e] + refills es := List.countP_append
    calc b.run (b.step level e) es + (takenBy level e + b.taken (b.step level e) es)
        = (b.run (b.step level e) es + b.taken (b.step level e) es) + takenBy level e := by
          rw [add_left_comm, add_comm]
      _ ≤ (b.step level e + refills es • b.rate) + takenBy level e :=
          add_le_add_left (ih _) _
      _ = (b.step level e + takenBy level e) + refills es • b.rate := add_right_comm _ _ _
      _ ≤ (level + refills [e] • b.rate) + refills es • b.rate :=
          add_le_add_left (step_balance level e) _
      _ = level + refills ([e] ++ es) • b.rate := by rw [hrefills, add_nsmul, add_assoc]

/-! ### Bounds of the level -/

variable {m : α} (hrate : 0 ≤ b.rate) (hpeak : 0 < b.peak) (hm : 0 ≤ m)

include hrate hpeak hm

theorem step_within {level : α} (h : b.Within m level) {e : Event α}
    (he : OffersUpTo m [e]) : b.Within m (b.step level e) := by
  cases e with
  | refill =>
    constructor
    · have hfull : -m < b.peak := (neg_nonpos.mpr hm).trans_lt hpeak
      have hgain : -m < level + b.rate := h.debt.trans_le (le_add_of_nonneg_right hrate)
      exact lt_min hfull hgain
    · exact min_le_left _ _
  | offer size =>
    obtain ⟨hsize, hle⟩ := he size (List.mem_singleton_self _)
    show b.Within m (if 0 < level then level - size else level)
    by_cases hpos : 0 < level
    · rw [if_pos hpos]
      constructor
      · -- a positive level pays for all but less than the whole offer
        have hpaid : -size < level - size := by
          rw [sub_eq_neg_add]
          exact lt_add_of_pos_right _ hpos
        exact (neg_le_neg hle).trans_lt hpaid
      · exact (sub_le_self level hsize).trans h.cap
    · rw [if_neg hpos]
      exact h

theorem run_within {level : α} (h : b.Within m level) {es : List (Event α)}
    (he : OffersUpTo m es) : b.Within m (b.run level es) := by
  induction es generalizing level with
  | nil => exact h
  | cons e es ih =>
    have hhead : OffersUpTo m [e] := fun size hmem =>
      he size (List.mem_cons.mpr (.inl (List.mem_singleton.mp hmem)))
    exact ih (step_within hrate hpeak hm h hhead) fun size hmem =>
      he size (List.mem_cons_of_mem _ hmem)

/-! ### Bounds of what is taken -/

/-- The debt at the end is all that a run takes on top of its level and refills. -/
theorem taken_lt {level : α} (h : b.Within m level) {es : List (Event α)}
    (he : OffersUpTo m es) : b.taken level es < level + refills es • b.rate + m := by
  have hend : -m < b.run level es := (run_within hrate hpeak hm h he).debt
  have htaken : b.taken level es ≤ level + refills es • b.rate - b.run level es :=
    le_sub_iff_add_le'.mpr (run_balance level es)
  refine htaken.trans_lt ?_
  rw [sub_eq_add_neg]
  exact add_lt_add_right (neg_lt.mp hend) _

end Bucket

end Buckets
