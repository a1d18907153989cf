import Yeti.Params.Scan

/-! # Random numbers

    `$_r(...)` takes the remainder of `rand()` by whatever its content expands to.  The
    content is only tested for being an integer: zero divides by zero, and a negative
    number gives a remainder as if it were positive.
-/

namespace Yeti.Params

open Decimal

variable {L : Library} {env : Env} {s br text : List Char} {p : Nat} {st st' : St}

/-- The placeholder gives a number below the positive integer that its content expands to,
    and `0` when that is no positive integer. -/
def RandomBelow (L : Library) (text : List Char) (r : Except Fault Step) : Prop :=
  ∃ step, r = .ok step ∧
    (∀ n, L.str2int text = some n → 0 < n →
      ∃ v : Nat, (v : Int) < n ∧ step.out = Nat.toDigits 10 v) ∧
    ((∀ n, L.str2int text = some n → n ≤ 0) → step.out = "0".toList)

/-- The content is no integer, a positive one, or a negative one that divides the number
    drawn. -/
def Drawable (L : Library) (text : List Char) (draws : Nat) : Prop :=
  ∀ n, L.str2int text = some n → n ≤ 0 → n ≠ 0 ∧ n ∣ (L.rand draws : Int)

theorem contentStart_modify (h_ : s[p]? = some '_') {start : Nat}
    (h : contentStart s p = some start) :
    start = p + 3 ∧ p + 4 ≤ s.length ∧ s[p + 2]? = some '(' := by
  unfold contentStart at h
  by_cases hopen : s[p + 2]? = some '(' ∧ p + 4 ≤ s.length
  · rw [if_pos ⟨h_, hopen⟩] at h
    exact ⟨(Option.some.inj h).symm, hopen.2, hopen.1⟩
  · rw [if_neg (fun hc => hopen hc.2), if_neg (by simp [h_])] at h
    cases h

/-- `$_o(...)` is its operator applied to the expanded content. -/
theorem placeholder_applied {operation : Char} (h_ : s[p]? = some '_')
    (hop : s[p + 1]? = some operation) (hbr : bracketContent L s p = some br)
    (hexp : replaceParameters L env br st = .ok (text, st')) :
    placeholder L env (replaceParameters L env) s p st =
      applied L operation (L.skip_to_end_of_brackets s (p + 3) - p) (text, st') := by
  obtain ⟨start, hstart, hcontent⟩ := Option.bind_eq_some_iff.mp hbr
  obtain ⟨rfl, hlen, hopen⟩ := contentStart_modify h_ hstart
  have hopen' : s[p + 2] = '(' := (List.getElem?_eq_some_iff.mp hopen).2
  have hop' : s[p + 1] = operation := (List.getElem?_eq_some_iff.mp hop).2
  rw [placeholder_modify h_, case_modify_eq hlen, if_neg (not_not_intro hopen'), hop']
  by_cases hend : L.skip_to_end_of_brackets s (p + 3) = s.length
  · rw [if_pos hend] at hcontent
    cases hcontent
  · rw [if_neg hend] at hcontent
    show (if L.skip_to_end_of_brackets s (p + 3) = s.length then _ else _) = _
    rw [if_neg hend, Option.some.inj hcontent, hexp, ok_bind]

theorem applied_random (skip_chars : Nat) (r : List Char × St) :
    applied L 'r' skip_chars r = random L r.1 r.2.draws >>= fun m =>
      .ok { out := m.1, skip_chars := skip_chars, st := { r.2 with draws := m.2 } } := rfl

theorem random_none {draws : Nat} (h : L.str2int text = none) :
    random L text draws = .ok ("0".toList, draws) := by
  rw [random, h]

theorem random_zero {draws : Nat} (h : L.str2int text = some 0) :
    random L text draws = .error .division_by_zero := by
  rw [random, h]
  rfl

/-- The remainder of a draw is not negative. -/
theorem random_some (draws : Nat) {n : Int} (h : L.str2int text = some n) (hn : n ≠ 0) :
    ∃ v : Nat, (v : Int) = Int.tmod (L.rand draws) n ∧
      random L text draws = .ok (Nat.toDigits 10 v, draws + 1) := by
  -- `%` takes the sign of `rand()`, not that of `n`
  have hnonneg : 0 ≤ Int.tmod (L.rand draws) n := Int.tmod_nonneg n (Int.natCast_nonneg _)
  obtain ⟨v, hv⟩ := Int.eq_ofNat_of_zero_le hnonneg
  refine ⟨v, hv.symm, ?_⟩
  rw [random, h]
  simp only [if_neg hn, hv]
  rfl

/-- The digits are those of zero for zero only. -/
theorem toDigits_eq_zero_iff (v : Nat) : Nat.toDigits 10 v = "0".toList ↔ v = 0 := by
  constructor
  · intro h
    by_contra hv
    exact toDigits_ne_zero (Nat.pos_of_ne_zero hv) h
  · rintro rfl
    rfl

theorem randomBelow_none (h : L.str2int text = none) {step : Step} (hout : step.out = "0".toList) :
    RandomBelow L text (.ok step) := by
  refine ⟨step, rfl, ?_, fun _ => hout⟩
  intro n hn
  rw [h] at hn
  cases hn

/-- With `n` read, a printed `v` is right when it is below `n`, or zero for an `n` that is
    not positive. -/
theorem randomBelow_some_iff {n : Int} (h : L.str2int text = some n) {v : Nat} {step : Step}
    (hout : step.out = Nat.toDigits 10 v) (hlt : 0 < n → (v : Int) < n) :
    RandomBelow L text (.ok step) ↔ (n ≤ 0 → v = 0) := by
  have hsame : ∀ m, L.str2int text = some m → m = n := by
    intro m hm
    exact Option.some.inj (hm.symm.trans h)
  constructor
  · rintro ⟨step', hstep, -, hother⟩ hle
    have hzero : step'.out = "0".toList := hother fun m hm => by rw [hsame m hm]; exact hle
    cases hstep
    exact (toDigits_eq_zero_iff v).mp (hout.symm.trans hzero)
  · intro hv
    refine ⟨step, rfl, ?_, ?_⟩
    · intro m hm hpos
      have hmn := hsame m hm
      exact ⟨v, by omega, hout⟩
    · intro hle
      rw [hout]
      exact (toDigits_eq_zero_iff v).mpr (hv (hle n h))

theorem drawable_none {draws : Nat} (h : L.str2int text = none) : Drawable L text draws := by
  intro n hn
  rw [h] at hn
  cases hn

theorem drawable_some_iff {draws : Nat} {n : Int} (h : L.str2int text = some n) :
    Drawable L text draws ↔ (n ≤ 0 → n ≠ 0 ∧ n ∣ (L.rand draws : Int)) := by
  constructor
  · intro hdraw
    exact hdraw n h
  · intro hdraw m hm
    have hmn : m = n := Option.some.inj (hm.symm.trans h)
    rw [hmn]
    exact hdraw

/-- A random placeholder, wherever it is expanded, gives what it promises exactly if its
    content is drawable. -/
theorem random_placeholder_iff (L : Library) (env : Env) (s br text : List Char) (p : Nat)
    (st st' : St) (h_ : s[p]? = some '_') (hr : s[p + 1]? = some 'r')
    (hbr : bracketContent L s p = some br)
    (hexp : replaceParameters L env br st = .ok (text, st')) :
    RandomBelow L text (placeholder L env (replaceParameters L env) s p st) ↔
      Drawable L text st'.draws := by
  rw [placeholder_applied h_ hr hbr hexp, applied_random]
  cases hread : L.str2int text with
  | none =>
    have hout : random L text st'.draws = .ok ("0".toList, st'.draws) := random_none hread
    rw [hout, ok_bind]
    exact iff_of_true (randomBelow_none hread rfl) (drawable_none hread)
  | some n =>
    rw [drawable_some_iff hread]
    by_cases hzero : n = 0
    · -- `rand() % 0` is no step at all
      subst hzero
      have hout : random L text st'.draws = .error .division_by_zero := random_zero hread
      rw [hout, error_bind]
      constructor
      · rintro ⟨step, hstep, -⟩
        cases hstep
      · intro hdraw
        exact absurd rfl (hdraw (by omega)).1
    · -- for a negative `n` the remainder has to vanish
      obtain ⟨v, hv, hout⟩ := random_some st'.draws hread hzero
      have hlt : 0 < n → (v : Int) < n := by
        intro hpos
        rw [hv]
        exact Int.tmod_lt_of_pos _ hpos
      have hdvd : v = 0 ↔ n ∣ (L.rand st'.draws : Int) := by
        rw [Int.dvd_iff_tmod_eq_zero, ← hv]
        omega
      rw [show random L text st'.draws = _ from hout, ok_bind,
        randomBelow_some_iff hread rfl hlt, hdvd]
      exact ⟨fun h hle => ⟨hzero, h hle⟩, fun h hle => (h hle).2⟩

theorem random_placeholder_iff_seven :
    RandomBelow .small "7".toList
        (placeholder .small .small (replaceParameters .small .small) "$_r(7)".toList 1 {}) ↔
      Drawable .small "7".toList 0 :=
  random_placeholder_iff .small .small "$_r(7)".toList "7".toList "7".toList 1 {} {} rfl rfl rfl rfl

/-- A content that expands to `0` divides by zero. -/
theorem not_random_placeholder_zero :
    ¬∀ (L : Library) (env : Env) (s br text : List Char) (p : Nat) (st st' : St),
      s[p]? = some '_' → s[p + 1]? = some 'r' → bracketContent L s p = some br →
      replaceParameters L env br st = .ok (text, st') →
      RandomBelow L text (placeholder L env (replaceParameters L env) s p st) := by
  intro hall
  obtain ⟨step, hstep, -⟩ :=
    hall .small .small "$_r(0)".toList "0".toList "0".toList 1 {} {} rfl rfl rfl rfl
  have hfault : placeholder .small .small (replaceParameters .small .small) "$_r(0)".toList 1 {} =
      .error .division_by_zero := rfl
  rw [hfault] at hstep
  cases hstep

end Yeti.Params
