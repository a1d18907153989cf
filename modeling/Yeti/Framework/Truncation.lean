import Mathlib.Algebra.Order.Floor.Ring

/-! # Rounding towards zero

    The conversion of a number to an integer that drops its fraction, and how integers
    compare with a number that has one.
-/

namespace Truncation

variable {R : Type*} [Ring R] [LinearOrder R] [IsStrictOrderedRing R] [FloorRing R]

/-- The number without its fraction. -/
def toInt (x : R) : ℤ := if 0 ≤ x then ⌊x⌋ else ⌈x⌉

omit [IsStrictOrderedRing R] in
theorem toInt_of_nonneg {x : R} (h : 0 ≤ x) : toInt x = ⌊x⌋ := if_pos h

omit [IsStrictOrderedRing R] in
theorem toInt_of_neg {x : R} (h : x < 0) : toInt x = ⌈x⌉ := if_neg (not_le.mpr h)

/-- Below the integer the difference is rounded down, the number itself up. -/
theorem toInt_intCast_sub_of_le {x : R} {n : ℤ} (h : x ≤ n) : toInt ((n : R) - x) = n - ⌈x⌉ := by
  rw [toInt_of_nonneg (sub_nonneg.mpr h), sub_eq_add_neg, Int.floor_intCast_add, Int.floor_neg,
    sub_eq_add_neg]

theorem toInt_intCast_sub_of_gt {x : R} {n : ℤ} (h : (n : R) < x) :
    toInt ((n : R) - x) = n - ⌊x⌋ := by
  rw [toInt_of_neg (sub_neg.mpr h), sub_eq_add_neg, Int.ceil_intCast_add, Int.ceil_neg,
    sub_eq_add_neg]

/-! ### Numbers with a fraction -/

section Fraction

variable {x : R} (hx : (⌊x⌋ : R) ≠ x)

include hx

omit [IsStrictOrderedRing R] in
theorem ceil_eq : ⌈x⌉ = ⌊x⌋ + 1 := by
  refine le_antisymm (Int.ceil_le_floor_add_one x) (Int.add_one_le_iff.mpr ?_)
  exact Int.lt_ceil.mpr (lt_of_le_of_ne (Int.floor_le x) hx)

theorem intCast_ne (d : ℤ) : (d : R) ≠ x := by
  rintro rfl
  exact hx (by rw [Int.floor_intCast])

theorem intCast_lt_iff (d : ℤ) : (d : R) < x ↔ d ≤ ⌊x⌋ := by
  rw [Int.le_floor, lt_iff_le_and_ne]
  exact and_iff_left (intCast_ne hx d)

theorem le_intCast_iff (d : ℤ) : x ≤ (d : R) ↔ ⌊x⌋ < d := by
  rw [Int.floor_lt, lt_iff_le_and_ne]
  exact (and_iff_left (intCast_ne hx d).symm).symm

end Fraction

end Truncation
