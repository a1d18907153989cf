import Mathlib.Data.List.Basic
import Mathlib.Data.Nat.Log

/-! # Decimal texts

    The text of an integer as `%d` writes it, and reading the digits back.  A
    positive number is written without a leading zero, so its digits are read as
    the number they stand for.
-/

namespace Decimal

/-- `%d`. -/
def formatInt : Int → List Char
  | .ofNat n => Nat.toDigits 10 n
  | .negSucc n => '-' :: Nat.toDigits 10 (n + 1)

/-- Decimal digits without a leading zero. -/
def readDigits (s : List Char) : Option Nat :=
  if s.isEmpty || s.head? = some '0' || !s.all Char.isDigit then none
  else some (Nat.ofDigitChars 10 s 0)

theorem head_toDigits {n : Nat} (h : 0 < n) : (Nat.toDigits 10 n).head? ≠ some '0' := by
  induction n using Nat.strongRecOn with
  | ind n ih =>
    by_cases hsmall : n < 10
    · have hdigit : ∀ d < 10, 0 < d → [Nat.digitChar d].head? ≠ some '0' := by decide
      rw [Nat.toDigits_of_lt_base hsmall]
      exact hdigit n hsmall h
    · -- the leading digit is that of `n / 10`
      rw [Nat.toDigits_of_base_le (by decide) (by omega),
        List.head?_append_of_ne_nil _ Nat.toDigits_ne_nil]
      exact ih (n / 10) (by omega) (by omega)

/-- The digits of a positive number are read back. -/
theorem readDigits_toDigits {n : Nat} (h : 0 < n) : readDigits (Nat.toDigits 10 n) = some n := by
  have hne : (Nat.toDigits 10 n).isEmpty = false := by
    simp [Nat.toDigits_ne_nil]
  have hdigits : (Nat.toDigits 10 n).all Char.isDigit = true := by
    rw [List.all_eq_true]
    intro c hc
    exact Nat.isDigit_of_mem_toDigits (by decide) (by decide) hc
  unfold readDigits
  rw [if_neg (by simp [hne, head_toDigits h, hdigits]), Nat.ofDigitChars_ten_toDigits]

theorem toDigits_ne_minus (n : Nat) : (Nat.toDigits 10 n).head? ≠ some '-' := by
  intro h
  have hmem := List.mem_of_head? h
  exact absurd (Nat.isDigit_of_mem_toDigits (by decide) (by decide) hmem) (by decide)

theorem toDigits_ne_zero {n : Nat} (h : 0 < n) : Nat.toDigits 10 n ≠ ['0'] := by
  intro hzero
  exact head_toDigits h (by rw [hzero]; rfl)

/-- A number has one digit more than its logarithm says. -/
theorem length_toDigits (n : ℕ) : (Nat.toDigits 10 n).length = Nat.log 10 n + 1 := by
  have hlower : ¬ (Nat.toDigits 10 n).length ≤ Nat.log 10 n := by
    rcases Nat.eq_zero_or_pos (Nat.log 10 n) with hlog | hlog
    · have hpos : 0 < (Nat.toDigits 10 n).length := Nat.length_toDigits_pos
      omega
    · -- a logarithm above zero is that of a positive number
      have hn : n ≠ 0 := fun hzero => by simp [hzero] at hlog
      rw [Nat.length_toDigits_le_iff (by decide) hlog, not_lt]
      exact Nat.pow_log_le_self 10 hn
  have hupper : (Nat.toDigits 10 n).length ≤ Nat.log 10 n + 1 := by
    rw [Nat.length_toDigits_le_iff (by decide) (Nat.succ_pos _)]
    exact Nat.lt_pow_succ_log_self (by decide) n
  omega

theorem formatInt_ne_nil (z : ℤ) : formatInt z ≠ [] := by
  cases z with
  | ofNat n => exact Nat.toDigits_ne_nil
  | negSucc n => exact List.cons_ne_nil _ _

theorem toDigits_injective : Function.Injective (Nat.toDigits 10) := fun m n h => by
  rw [← Nat.ofDigitChars_ten_toDigits (n := m), h, Nat.ofDigitChars_ten_toDigits]

/-- Integers with the same text are the same: only the text of a negative one starts
    with a minus sign. -/
theorem formatInt_injective : Function.Injective formatInt := by
  intro x y h
  cases x with
  | ofNat m =>
    cases y with
    | ofNat n => exact congrArg Int.ofNat (toDigits_injective h)
    | negSucc n => exact absurd (congrArg List.head? h) (toDigits_ne_minus m)
  | negSucc m =>
    cases y with
    | ofNat n => exact absurd (congrArg List.head? h).symm (toDigits_ne_minus n)
    | negSucc n =>
      have hdigits : Nat.toDigits 10 (m + 1) = Nat.toDigits 10 (n + 1) := (List.cons.inj h).2
      exact congrArg Int.negSucc (Nat.succ_injective (toDigits_injective hdigits))

end Decimal
