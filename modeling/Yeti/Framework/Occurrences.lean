import Mathlib.Data.List.Basic

/-! # Occurrences of a pattern in a list

    `find` gives the first occurrence of a pattern.  `replaceAll` puts a list in the place
    of every occurrence, found from the left without overlaps, and does not look at what it
    has put in.
-/

namespace Occurrences

variable {α : Type*} [DecidableEq α] {pat rep : List α}

/-- Where the pattern occurs first. -/
def find (pat : List α) : List α → Option Nat
  | [] => if pat = [] then some 0 else none
  | a :: s => if pat <+: a :: s then some 0 else (find pat s).map (· + 1)

/-- `replaceAll` after the next `k` items, which belong to an occurrence. -/
def replaceFrom (pat rep : List α) : Nat → List α → List α
  | _, [] => []
  | k + 1, _ :: s => replaceFrom pat rep k s
  | 0, a :: s =>
    if pat <+: a :: s then rep ++ replaceFrom pat rep (pat.length - 1) s
    else a :: replaceFrom pat rep 0 s

/-- All occurrences replaced. -/
def replaceAll (pat rep s : List α) : List α := replaceFrom pat rep 0 s

/-- No second occurrence comes after the first one. -/
def AtMostOnce (pat s : List α) : Prop :=
  ∀ i ∈ find pat s, find pat (s.drop (i + pat.length)) = none

theorem replaceFrom_eq_drop (k : Nat) (s : List α) :
    replaceFrom pat rep k s = replaceAll pat rep (s.drop k) := by
  induction s generalizing k with
  | nil => cases k <;> simp [replaceAll, replaceFrom]
  | cons a s ih =>
    cases k with
    | zero => rfl
    | succ k => exact ih k

/-- The list before, at and after the first occurrence. -/
theorem eq_of_find {s : List α} {i : Nat} (h : find pat s = some i) :
    s = s.take i ++ (pat ++ s.drop (i + pat.length)) := by
  induction s generalizing i with
  | nil =>
    unfold find at h
    split_ifs at h with hpat
    simp [hpat]
  | cons a s ih =>
    unfold find at h
    split_ifs at h with hpre
    · obtain rfl := Option.some.inj h
      obtain ⟨rest, hrest⟩ := hpre
      rw [Nat.zero_add, ← hrest, List.take_zero, List.drop_left, List.nil_append]
    · obtain ⟨j, hj, rfl⟩ := Option.map_eq_some_iff.mp h
      have hsum : j + 1 + pat.length = (j + pat.length) + 1 := by omega
      rw [hsum, List.take_succ_cons, List.drop_succ_cons, List.cons_append, ← ih hj]

theorem find_lt_length {s : List α} {i : Nat} (hne : pat ≠ []) (h : find pat s = some i) :
    i < s.length := by
  have hpos := List.length_pos_iff.mpr hne
  have hlength := congrArg List.length (eq_of_find h)
  simp only [List.length_append, List.length_take, List.length_drop] at hlength
  omega

theorem replaceAll_of_find_none {s : List α} (h : find pat s = none) :
    replaceAll pat rep s = s := by
  induction s with
  | nil => rfl
  | cons a s ih =>
    unfold find at h
    split_ifs at h with hpre
    have hrest := ih (Option.map_eq_none_iff.mp h)
    rw [replaceAll, replaceFrom, if_neg hpre]
    exact congrArg (a :: ·) hrest

/-- The first occurrence is replaced, and then those after it. -/
theorem replaceAll_of_find (hne : pat ≠ []) {s : List α} {i : Nat} (h : find pat s = some i) :
    replaceAll pat rep s =
      s.take i ++ (rep ++ replaceAll pat rep (s.drop (i + pat.length))) := by
  induction s generalizing i with
  | nil =>
    unfold find at h
    rw [if_neg hne] at h
    cases h
  | cons a s ih =>
    unfold find at h
    rw [replaceAll, replaceFrom]
    split_ifs at h with hpre
    · obtain rfl := Option.some.inj h
      -- the character at hand is the first of those that are passed
      have hlength : pat.length = (pat.length - 1) + 1 := by
        have hpos := List.length_pos_iff.mpr hne
        omega
      rw [if_pos hpre, Nat.zero_add, List.take_zero, List.nil_append, replaceFrom_eq_drop]
      conv => rhs; rw [hlength, List.drop_succ_cons]
    · obtain ⟨j, hj, rfl⟩ := Option.map_eq_some_iff.mp h
      have hsum : j + 1 + pat.length = (j + pat.length) + 1 := by omega
      rw [if_neg hpre, hsum, List.take_succ_cons, List.drop_succ_cons, List.cons_append, ← ih hj]
      rfl

/-! ### Lengths -/

variable (rep) in
/-- One replacement changes the length by the same amount each time. -/
theorem length_replaceFrom (k : Nat) (s : List α) (hne : pat ≠ []) :
    (rep.length ≤ pat.length → (replaceFrom pat rep k s).length ≤ (s.drop k).length) ∧
      (pat.length ≤ rep.length → (s.drop k).length ≤ (replaceFrom pat rep k s).length) := by
  have hpos := List.length_pos_iff.mpr hne
  induction s generalizing k with
  | nil => simp [replaceFrom]
  | cons a s ih =>
    cases k with
    | succ k => exact ih k
    | zero =>
      rw [replaceFrom, List.drop_zero]
      split_ifs with hpre
      · -- the occurrence lies within the list, so the rest of it can be passed
        have hle := hpre.length_le
        obtain ⟨hshrinks, hgrows⟩ := ih (pat.length - 1)
        rw [List.length_drop] at hshrinks hgrows
        rw [List.length_append, List.length_cons] at *
        constructor
        · intro hrep
          have := hshrinks hrep
          omega
        · intro hrep
          have := hgrows hrep
          omega
      · obtain ⟨hshrinks, hgrows⟩ := ih 0
        rw [List.drop_zero] at hshrinks hgrows
        rw [List.length_cons, List.length_cons]
        exact ⟨fun hrep => Nat.succ_le_succ (hshrinks hrep),
          fun hrep => Nat.succ_le_succ (hgrows hrep)⟩

/-- An occurrence replaced by the pattern stays what it is. -/
theorem replaceFrom_self (hne : pat ≠ []) (k : Nat) (s : List α) :
    replaceFrom pat pat k s = s.drop k := by
  induction s generalizing k with
  | nil => simp [replaceFrom]
  | cons a s ih =>
    cases k with
    | succ k => exact ih k
    | zero =>
      rw [replaceFrom, List.drop_zero]
      split_ifs with hpre
      · obtain ⟨rest, hrest⟩ := hpre
        have hpos := List.length_pos_iff.mpr hne
        have hlength : pat.length = (pat.length - 1) + 1 := by omega
        have hdrop : s.drop (pat.length - 1) = rest := by
          rw [← List.drop_succ_cons (a := a), ← hlength, ← hrest, List.drop_left]
        rw [ih, hdrop, hrest]
      · rw [ih, List.drop_zero]

/-- Replacing changes nothing exactly if there is nothing to replace, or the pattern is
    replaced by itself. -/
theorem replaceAll_eq_self_iff (hne : pat ≠ []) (s : List α) :
    replaceAll pat rep s = s ↔ rep = pat ∨ find pat s = none := by
  constructor
  · intro heq
    by_contra hnot
    obtain ⟨hrep, hfind⟩ := not_or.mp hnot
    obtain ⟨i, hi⟩ := Option.ne_none_iff_exists'.mp hfind
    rw [replaceAll_of_find hne hi] at heq
    have hparts := heq.trans (eq_of_find hi)
    rw [List.append_right_inj] at hparts
    -- equal lengths of the rest leave equal lengths for the two texts
    obtain ⟨hshrinks, hgrows⟩ := length_replaceFrom rep 0 (s.drop (i + pat.length)) hne
    rw [List.drop_zero] at hshrinks hgrows
    have hsum := congrArg List.length hparts
    rw [List.length_append, List.length_append] at hsum
    have hlength : rep.length = pat.length := by
      unfold replaceAll at hsum
      rcases Nat.le_total rep.length pat.length with hle | hle
      · have := hshrinks hle
        omega
      · have := hgrows hle
        omega
    exact hrep (List.append_inj_left hparts hlength)
  · rintro (rfl | hnone)
    · exact replaceFrom_self hne 0 s
    · exact replaceAll_of_find_none hnone

end Occurrences
